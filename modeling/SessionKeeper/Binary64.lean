/-!
Numbers of IEEE 754's binary64 format, held exactly: a finite one is a significand times a power of
two. A ratio becomes the nearest number of the format, and the one with the even significand if two
are equally near, so that everything said about these numbers is said about natural numbers.
-/

namespace SessionKeeper

/-- A number of the format. -/
inductive Binary64 where
  /-- No number. -/
  | nan
  /-- Beyond all finite numbers. -/
  | infinite (negative : Bool)
  /-- The number `significand · 2 ^ exponent`, with a sign. -/
  | finite (negative : Bool) (significand : Nat) (exponent : Int)
deriving DecidableEq, Repr

namespace Binary64

/-- The exponent of the smallest numbers. -/
def minExponent : Int := -1074

/-- The exponent of the greatest numbers. -/
def maxExponent : Int := 971

/-- Zero. -/
def zero (negative : Bool) : Binary64 := finite negative 0 minExponent

/-- The ratio `num / den`, times a power of `base`. -/
def timesPower (base : Nat) (power : Int) (num den : Nat) : Nat × Nat :=
  (num * Nat.pow base power.toNat, den * Nat.pow base (-power).toNat)

/-- The natural number nearest to a ratio, and the even one of two that are equally near. -/
def roundEven (num den : Nat) : Nat :=
  let q := num / den
  let r := num % den
  if den < 2 * r ∨ (den = 2 * r ∧ q % 2 = 1) then q + 1 else q

/-- The exponent of the numbers around a positive ratio: the one that gives a significand of 53
binary digits, unless that is less than the least exponent. -/
def exponentAround (num den : Nat) : Int :=
  let guess : Int := (num.log2 : Int) - den.log2
  let (n, d) := timesPower 2 (-guess) num den
  let order := if n < d then guess - 1 else guess
  max (order - 52) minExponent

/-- The number nearest to a ratio. -/
def ofRatio (negative : Bool) (num den : Nat) : Binary64 :=
  if num = 0 then zero negative
  else
    let exponent := exponentAround num den
    let (n, d) := timesPower 2 (-exponent) num den
    let significand := roundEven n d
    if significand = 0 then zero negative
    else
      let (significand, exponent) :=
        if significand = Nat.pow 2 53 then (Nat.pow 2 52, exponent + 1)
        else (significand, exponent)
      if maxExponent < exponent then infinite negative else finite negative significand exponent

/-- The number nearest to `digits · 10 ^ scale`. Numbers that are out of every reach by their
number of digits alone are not looked at any further. -/
def ofDecimal (negative : Bool) (digits : Nat) (scale : Int) : Binary64 :=
  let order : Int := (Nat.toDigits 10 digits).length + scale
  if digits = 0 ∨ order < -400 then zero negative
  else if 400 < order then infinite negative
  else
    let (num, den) := timesPower 10 scale digits 1
    ofRatio negative num den

/-- Whether the number is not zero; what is no number is not zero either. -/
def isNonzero : Binary64 → Bool
  | finite _ significand _ => significand != 0
  | _ => true

/-- The ratio that a finite number without its sign is. -/
def ratio (significand : Nat) (exponent : Int) : Nat × Nat := timesPower 2 exponent significand 1

/-- The product with a positive finite number, rounded. -/
def mulFinite (x : Binary64) (n : Nat) (f : Int) : Binary64 :=
  match x with
  | finite s m e =>
    let (num, den) := ratio m e
    let (num', den') := ratio n f
    ofRatio s (num * num') (den * den')
  | x => x

/-- The quotient by a positive finite number, rounded. -/
def divFinite (x : Binary64) (n : Nat) (f : Int) : Binary64 :=
  match x with
  | finite s m e =>
    let (num, den) := ratio m e
    let (num', den') := ratio n f
    ofRatio s (num * den') (den * num')
  | x => x

/-- The nearest integer, and of two that are equally near the one farther from zero. -/
def roundAway (negative : Bool) (significand : Nat) (exponent : Int) : Int :=
  let (num, den) := ratio significand exponent
  let n : Int := ((2 * num + den) / (2 * den) : Nat)
  if negative then -n else n

/-- The nearest integer between two bounds; none is taken for zero. -/
def toIntBetween (least most : Int) : Binary64 → Int
  | nan => 0
  | infinite true => least
  | infinite false => most
  | finite s m e => max least (min most (roundAway s m e))

end Binary64

end SessionKeeper
