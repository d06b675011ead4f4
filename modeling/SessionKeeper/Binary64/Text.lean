import SessionKeeper.Binary64
import SessionKeeper.Text.Digits

/-!
Binary64 numbers in decimal. A number is read off an optional sign, digits with a decimal point
somewhere among them, and an optional power of ten, or off one of the words for what is infinite or
no number. It is written positionally, with the fewest digits that read back as the same number.
-/

namespace SessionKeeper.Binary64

/-! ### Writing -/

/-- The power of ten that a positive ratio is of: the position of its first decimal digit. -/
def decimalOrder (num den : Nat) : Int :=
  let guess : Int := ((Nat.toDigits 10 num).length : Int) - (Nat.toDigits 10 den).length
  let (n, d) := timesPower 10 (-guess) num den
  if n < d then guess - 1 else guess

/-- The nearer of the two neighbours of a positive ratio among the multiples of `10 ^ scale`, and
the greater if they are equally near; only a neighbour that reads back as `x` counts. -/
def neighbour? (x : Binary64) (num den : Nat) (scale : Int) : Option Nat :=
  let (n, d) := timesPower 10 (-scale) num den
  let below := n / d
  let above := below + 1
  let readsBack (digits : Nat) : Bool := ofDecimal false digits scale == x
  if readsBack below then
    if readsBack above && decide (d ≤ 2 * (n % d)) then some above else some below
  else if readsBack above then some above
  else none

/-- The fewest decimal digits that read back as `x`, with their scale, tried from the given number
of digits on. A neighbour above may be a power of ten, which has one digit. -/
def shortestFrom (x : Binary64) (num den : Nat) (order : Int) : Nat → Nat → Nat × Int
  | _, 0 => (0, 0)
  | count, fuel + 1 =>
    let scale := order - count + 1
    match neighbour? x num den scale with
    | some digits => if digits = Nat.pow 10 count then (1, scale + count) else (digits, scale)
    | none => shortestFrom x num den order (count + 1) fuel

/-- The fewest decimal digits that read back as a positive finite number. Seventeen are always
enough. -/
def shortest (significand : Nat) (exponent : Int) : Nat × Int :=
  let (num, den) := ratio significand exponent
  shortestFrom (finite false significand exponent) num den (decimalOrder num den) 1 17

/-- Digits and a scale in positional notation, without a fraction that is zero. -/
def positional (digits : Nat) (scale : Int) : String :=
  let ds := Nat.toDigits 10 digits
  if 0 ≤ scale then String.ofList (ds ++ List.replicate scale.toNat '0')
  else
    let places := (-scale).toNat
    if places < ds.length then
      let (whole, fraction) := ds.splitAt (ds.length - places)
      String.ofList (whole ++ '.' :: fraction)
    else String.ofList ('0' :: '.' :: List.replicate (places - ds.length) '0' ++ ds)

/-- The written form. -/
def toText : Binary64 → String
  | nan => "NaN"
  | infinite negative => if negative then "-inf" else "inf"
  | finite negative significand exponent =>
    let magnitude :=
      if significand = 0 then "0"
      else
        let (digits, scale) := shortest significand exponent
        positional digits scale
    if negative then "-" ++ magnitude else magnitude

/-! ### Reading -/

/-- A decimal digit. -/
def isDigit (c : Char) : Bool := (Text.digit? c).isSome

/-- The number that digits denote. -/
def digitsValue (ds : List Char) : Nat := (Text.digitsFrom 0 ds).getD 0

/-- A power of ten at the end of a number; nothing stands for the power 0. -/
def readPower? : List Char → Option Int
  | [] => some 0
  | c :: cs =>
    if c = 'e' ∨ c = 'E' then Text.readInt? cs else none

/-- A number without a sign: digits with a point before, among, behind or without them. -/
def readMagnitude? (cs : List Char) : Option (Nat × Int) :=
  let whole := cs.takeWhile isDigit
  let rest := cs.dropWhile isDigit
  let (fraction, rest) :=
    match rest with
    | '.' :: behind => (behind.takeWhile isDigit, behind.dropWhile isDigit)
    | _ => ([], rest)
  if whole.isEmpty ∧ fraction.isEmpty then none
  else (readPower? rest).map fun power => (digitsValue (whole ++ fraction), power - fraction.length)

/-- A number without a sign, or one of the words. -/
def readUnsigned? (negative : Bool) (cs : List Char) : Option Binary64 :=
  let word := cs.map Char.toLower
  if word = "inf".toList ∨ word = "infinity".toList then some (infinite negative)
  else if word = "nan".toList then some nan
  else (readMagnitude? cs).map fun (digits, scale) => ofDecimal negative digits scale

/-- Read a number. -/
def ofText? (s : String) : Option Binary64 :=
  match s.toList with
  | '-' :: cs => readUnsigned? true cs
  | '+' :: cs => readUnsigned? false cs
  | cs => readUnsigned? false cs

end SessionKeeper.Binary64
