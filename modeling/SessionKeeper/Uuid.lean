import SessionKeeper.Text.Digits

/-!
Universally unique identifiers: 128 bits, ordered as numbers, written as five groups of lower-case
hexadecimal digits. A reader accepts the plain digits, the hyphenated form, and the hyphenated form
in braces or behind `urn:uuid:`.
-/

namespace SessionKeeper

/-- A 128-bit identifier. -/
structure Uuid where
  /-- Its bits, the first hexadecimal digit standing for the highest four. -/
  bits : BitVec 128
deriving DecidableEq, Repr

namespace Uuid

instance : Inhabited Uuid := ⟨⟨0⟩⟩

/-- The identifier whose bits are all zero. -/
def nil : Uuid := ⟨0⟩

/-- Identifiers are ordered by their bits as a number. -/
instance : LT Uuid := ⟨fun a b => a.bits.toNat < b.bits.toNat⟩

instance : LE Uuid := ⟨fun a b => a.bits.toNat ≤ b.bits.toNat⟩

instance (a b : Uuid) : Decidable (a < b) := Nat.decLt _ _

instance (a b : Uuid) : Decidable (a ≤ b) := Nat.decLe _ _

/-- The sixteen bytes, highest first. -/
def toBytes (u : Uuid) : List UInt8 :=
  (List.range 16).map fun i => UInt8.ofNat (u.bits.toNat / Nat.pow 256 (15 - i))

/-- The identifier with the given bytes, highest first. -/
def ofBytes (bytes : List UInt8) : Uuid :=
  ⟨BitVec.ofNat 128 (bytes.foldl (fun acc b => acc * 256 + b.toNat) 0)⟩

/-- A random identifier made of the given random bits: the version field is 4 and the variant
field is binary 10. -/
def ofRandom (random : BitVec 128) : Uuid :=
  let versionMask : BitVec 128 := 0xF000#128 <<< 64
  let variantMask : BitVec 128 := 0xC000#128 <<< 48
  ⟨(random &&& ~~~(versionMask ||| variantMask)) ||| (0x4000#128 <<< 64) ||| (0x8000#128 <<< 48)⟩

/-- The version field. -/
def version (u : Uuid) : Nat := u.bits.toNat / Nat.pow 2 76 % 16

/-- Whether the fields say that an identifier is random. -/
def isRandom (u : Uuid) : Bool := u.version == 4 && u.bits.toNat / Nat.pow 2 62 % 4 == 2

/-- The 32 hexadecimal digits. -/
def digits (u : Uuid) : List Char :=
  (List.range 32).map fun i => Text.hexDigit (u.bits.toNat / Nat.pow 16 (31 - i) % 16)

/-- The written form: groups of 8, 4, 4, 4 and 12 digits. -/
def toText (u : Uuid) : String :=
  let d := u.digits
  String.ofList <|
    d.take 8 ++ '-' :: (d.drop 8).take 4 ++ '-' :: (d.drop 12).take 4 ++
      '-' :: (d.drop 16).take 4 ++ '-' :: d.drop 20

instance : ToString Uuid := ⟨toText⟩

/-- Thirty-two digits in a row. -/
def ofDigits? (cs : List Char) : Option Uuid :=
  if cs.length = 32 then (Text.hexFrom 0 cs).map fun n => ⟨BitVec.ofNat 128 n⟩ else none

/-- Five groups of digits with hyphens between them. -/
def ofHyphenated? (cs : List Char) : Option Uuid :=
  let hyphens := [8, 13, 18, 23].all fun i => cs[i]? == some '-'
  if cs.length = 36 ∧ hyphens then
    ofDigits? (cs.take 8 ++ (cs.drop 9).take 4 ++ (cs.drop 14).take 4 ++ (cs.drop 19).take 4 ++
      cs.drop 24)
  else none

/-- Read an identifier in one of its four written forms. -/
def ofText? (s : String) : Option Uuid :=
  let cs := s.toList
  match cs.length with
  | 32 => ofDigits? cs
  | 36 => ofHyphenated? cs
  | 38 =>
    if cs.head? = some '{' ∧ cs.getLast? = some '}' then ofHyphenated? (cs.tail.dropLast) else none
  | 45 =>
    if (cs.take 9).map Char.toLower = "urn:uuid:".toList then ofHyphenated? (cs.drop 9) else none
  | _ => none

end Uuid

end SessionKeeper
