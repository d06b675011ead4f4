/-!
Numbers and bytes as text: decimal integers with an optional sign, fixed-width decimals, and bytes
as pairs of lower-case hexadecimal digits.
-/

namespace SessionKeeper.Text

/-- The value of a decimal digit. -/
def digit? (c : Char) : Option Nat :=
  if '0' ≤ c ∧ c ≤ '9' then some (c.toNat - '0'.toNat) else none

/-- The number that a run of decimal digits denotes, after the digits read so far. -/
def digitsFrom (acc : Nat) : List Char → Option Nat
  | [] => some acc
  | c :: cs =>
    match digit? c with
    | some d => digitsFrom (acc * 10 + d) cs
    | none => none

/-- The number denoted by one or more decimal digits, and nothing else. -/
def readNat? (cs : List Char) : Option Nat :=
  if cs.isEmpty then none else digitsFrom 0 cs

/-- An integer: an optional sign, then digits. -/
def readInt? : List Char → Option Int
  | '-' :: cs => (readNat? cs).map fun n => -(n : Int)
  | '+' :: cs => (readNat? cs).map Int.ofNat
  | cs => (readNat? cs).map Int.ofNat

/-- An unsigned integer: an optional plus sign, then digits. -/
def readUnsigned? : List Char → Option Nat
  | '+' :: cs => readNat? cs
  | cs => readNat? cs

/-- The least integer of a signed 64-bit word. -/
def minInt64 : Int := -9223372036854775808

/-- The greatest integer of a signed 64-bit word. -/
def maxInt64 : Int := 9223372036854775807

/-- The integers of a signed 64-bit word. -/
def isInt64 (n : Int) : Bool := minInt64 ≤ n && n ≤ maxInt64

/-- An integer that fits a signed 64-bit word. -/
def readInt64? (s : String) : Option Int :=
  (readInt? s.toList).filter isInt64

/-- An integer that fits an unsigned 64-bit word. -/
def readUInt64? (s : String) : Option Nat :=
  (readUnsigned? s.toList).filter (· < UInt64.size)

/-- A number in decimal, with leading zeros up to the given width. -/
def zeroPad (width n : Nat) : String :=
  let digits := toString n
  String.ofList (List.replicate (width - digits.length) '0') ++ digits

/-- A text with blanks behind it up to the given number of characters. -/
def padRight (width : Nat) (s : String) : String :=
  s ++ String.ofList (List.replicate (width - s.length) ' ')

/-- The digit of a number below sixteen. -/
def hexDigit (n : Nat) : Char :=
  if n < 10 then Char.ofNat ('0'.toNat + n) else Char.ofNat ('a'.toNat + (n - 10))

/-- The value of a hexadecimal digit of either case. -/
def hexValue? (c : Char) : Option Nat :=
  if '0' ≤ c ∧ c ≤ '9' then some (c.toNat - '0'.toNat)
  else if 'a' ≤ c ∧ c ≤ 'f' then some (c.toNat - 'a'.toNat + 10)
  else if 'A' ≤ c ∧ c ≤ 'F' then some (c.toNat - 'A'.toNat + 10)
  else none

/-- The number that a run of hexadecimal digits denotes, after the digits read so far. -/
def hexFrom (acc : Nat) : List Char → Option Nat
  | [] => some acc
  | c :: cs =>
    match hexValue? c with
    | some d => hexFrom (acc * 16 + d) cs
    | none => none

/-- Bytes as text, two digits each. -/
def hexOfBytes (bytes : List UInt8) : String :=
  String.ofList (bytes.flatMap fun b => [hexDigit (b.toNat / 16), hexDigit (b.toNat % 16)])

/-- The bytes that a text of pairs of hexadecimal digits stands for. -/
def bytesOfHexChars? : List Char → Option (List UInt8)
  | [] => some []
  | [_] => none
  | a :: b :: cs =>
    match hexValue? a, hexValue? b, bytesOfHexChars? cs with
    | some x, some y, some rest => some (UInt8.ofNat (16 * x + y) :: rest)
    | _, _, _ => none

/-- The bytes that a text of pairs of hexadecimal digits stands for. -/
def bytesOfHex? (s : String) : Option (List UInt8) := bytesOfHexChars? s.toList

end SessionKeeper.Text
