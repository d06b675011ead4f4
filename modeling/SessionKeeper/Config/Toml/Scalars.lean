import SessionKeeper.Calendar
import SessionKeeper.Config.Toml.Strings
import SessionKeeper.Config.Value

/-!
The values of a TOML document that are one word: truth values, integers in four bases, other
numbers, and dates and times, which are taken as texts in a uniform spelling.
-/

namespace SessionKeeper.Config.Toml

/-! ### Numbers -/

/-- Digits with single underscores between them, given without the underscores. -/
def digitRun? (isDigit : Char → Bool) : List Char → Option (List Char)
  | [] => none
  | [c] => if isDigit c then some [c] else none
  | c :: '_' :: cs => if isDigit c then (digitRun? isDigit cs).map (c :: ·) else none
  | c :: cs => if isDigit c then (digitRun? isDigit cs).map (c :: ·) else none

/-- The number that digits of a base denote. -/
def valueOf (base : Nat) (ds : List Char) : Nat :=
  ds.foldl (fun n c => n * base + (Text.hexValue? c).getD 0) 0

/-- A digit of a base up to sixteen. -/
def isDigitOf (base : Nat) (c : Char) : Bool := (Text.hexValue? c).any (· < base)

/-- A natural number in a base. -/
def readNat? (base : Nat) (cs : List Char) : Option Nat :=
  (digitRun? (isDigitOf base) cs).map (valueOf base)

/-- Decimal digits without a zero that stands in front of others. -/
def readWhole? (cs : List Char) : Option (List Char) :=
  (digitRun? (isDigitOf 10) cs).filter fun ds => ds.length ≤ 1 || ds.head? != some '0'

/-- The sign at the front of a number, and the rest. -/
def splitSign : List Char → Bool × List Char
  | '-' :: cs => (true, cs)
  | '+' :: cs => (false, cs)
  | cs => (false, cs)

/-- A number with its sign. -/
def signed (negative : Bool) (n : Nat) : Int := if negative then -n else n

/-- An integer. Only a decimal one may have a sign. -/
def readInteger? (cs : List Char) : Option Int :=
  match cs with
  | '0' :: 'x' :: ds => (readNat? 16 ds).map Int.ofNat
  | '0' :: 'o' :: ds => (readNat? 8 ds).map Int.ofNat
  | '0' :: 'b' :: ds => (readNat? 2 ds).map Int.ofNat
  | _ =>
    let (negative, ds) := splitSign cs
    (readWhole? ds).map fun ds => signed negative (valueOf 10 ds)

/-- What stands before the first character of a kind, and what stands behind it if there is one. -/
def splitAtFirst (p : Char → Bool) (cs : List Char) : List Char × Option (List Char) :=
  match cs.dropWhile fun c => !p c with
  | [] => (cs, none)
  | _ :: behind => (cs.takeWhile fun c => !p c, some behind)

/-- The digits of a part that may be left out. -/
def readPart? : Option (List Char) → Option (List Char)
  | none => some []
  | some cs => digitRun? (isDigitOf 10) cs

/-- The power of ten of a number. -/
def readPower? : Option (List Char) → Option Int
  | none => some 0
  | some cs =>
    let (negative, ds) := splitSign cs
    (digitRun? (isDigitOf 10) ds).map fun ds => signed negative (valueOf 10 ds)

/-- A number with a fraction, a power of ten, or both. One that is too great is none. -/
def readDecimal? (cs : List Char) : Option Binary64 := do
  let (negative, cs) := splitSign cs
  let (mantissa, power) := splitAtFirst (fun c => c == 'e' || c == 'E') cs
  let (whole, fraction) := splitAtFirst (· == '.') mantissa
  let ds ← readWhole? whole
  let fs ← readPart? fraction
  let power ← readPower? power
  match Binary64.ofDecimal negative (valueOf 10 (ds ++ fs)) (power - fs.length) with
  | .infinite _ => none
  | x => some x

/-- One of the words for what is infinite or no number, with a sign or without. -/
def readSpecial? (cs : List Char) : Option Binary64 :=
  let (negative, word) := splitSign cs
  if word = "inf".toList then some (.infinite negative)
  else if word = "nan".toList then some .nan
  else none

/-! ### Dates and times -/

/-- A number of exactly so many digits. -/
def takeNat? (count : Nat) (cs : List Char) : Option (Nat × List Char) :=
  let ds := cs.take count
  if ds.length = count ∧ ds.all (isDigitOf 10) then some (valueOf 10 ds, cs.drop count) else none

/-- A given character. -/
def takeMark? (mark : Char) : List Char → Option (List Char)
  | c :: cs => if c = mark then some cs else none
  | [] => none

/-- A date. -/
def takeDate? (cs : List Char) : Option (String × List Char) := do
  let (year, cs) ← takeNat? 4 cs
  let (month, cs) ← takeNat? 2 (← takeMark? '-' cs)
  let (day, cs) ← takeNat? 2 (← takeMark? '-' cs)
  if Calendar.isDate year month day then
    some (Text.zeroPad 4 year ++ "-" ++ Text.zeroPad 2 month ++ "-" ++ Text.zeroPad 2 day, cs)
  else none

/-- A fraction of a second, of which nine digits count, without zeros at its end. -/
def takeFraction? : List Char → Option (String × List Char)
  | '.' :: cs =>
    let ds := cs.takeWhile (isDigitOf 10)
    let counted := ((ds.take 9).reverse.dropWhile (· == '0')).reverse
    if ds.isEmpty then none
    else
      let text := if counted.isEmpty then "" else String.ofList ('.' :: counted)
      some (text, cs.dropWhile (isDigitOf 10))
  | cs => some ("", cs)

/-- Hours and minutes, as they stand in a time and in an offset. -/
def takeHours? (cs : List Char) : Option (String × List Char) := do
  let (hour, cs) ← takeNat? 2 cs
  let (minute, cs) ← takeNat? 2 (← takeMark? ':' cs)
  if hour < 24 ∧ minute < 60 then
    some (Text.zeroPad 2 hour ++ ":" ++ Text.zeroPad 2 minute, cs)
  else none

/-- A time of day. -/
def takeTime? (cs : List Char) : Option (String × List Char) := do
  let (hours, cs) ← takeHours? cs
  let (second, cs) ← takeNat? 2 (← takeMark? ':' cs)
  let (fraction, cs) ← takeFraction? cs
  if second ≤ 60 then some (hours ++ ":" ++ Text.zeroPad 2 second ++ fraction, cs) else none

/-- An offset from universal time; there may be none. -/
def takeOffset? : List Char → Option (String × List Char)
  | [] => some ("", [])
  | c :: cs =>
    if c = 'Z' ∨ c = 'z' then some ("Z", cs)
    else if c = '+' ∨ c = '-' then
      (takeHours? cs).map fun (hours, cs) =>
        ((if c = '-' ∧ hours ≠ "00:00" then "-" else "+") ++ hours, cs)
    else none

/-- The mark between a date and a time. -/
def isTimeMark (c : Char) : Bool := c == 'T' || c == 't' || c == ' '

/-- A date and time, a date, or a time. -/
def readMoment? (cs : List Char) : Option String :=
  match takeDate? cs with
  | some (date, []) => some date
  | some (date, mark :: cs) => do
    if !isTimeMark mark then none
    let (time, cs) ← takeTime? cs
    let (offset, cs) ← takeOffset? cs
    if cs.isEmpty then some (date ++ "T" ++ time ++ offset) else none
  | none =>
    match takeTime? cs with
    | some (time, []) => some time
    | _ => none

/-! ### Words -/

/-- A value that is one word. -/
def valueOfWord? (word : List Char) : Option Value :=
  if word = "true".toList then some (.flag true)
  else if word = "false".toList then some (.flag false)
  else
    match readInteger? word with
    | some n => if Text.isInt64 n then some (.int n) else none
    | none =>
      match readSpecial? word <|> readDecimal? word with
      | some x => some (.float x)
      | none => (readMoment? word).map .text

/-- A character of a word. -/
def isWordChar (c : Char) : Bool :=
  c.isAlphanum || c == '_' || c == '-' || c == '+' || c == '.' || c == ':'

/-- Whether a time of day, of which the hours are looked at, stands here. -/
def startsTime : List Char → Bool
  | a :: b :: ':' :: _ => isDigitOf 10 a && isDigitOf 10 b
  | _ => false

/-- A word; a date takes the time that stands one blank behind it along. -/
def takeWord (cs : List Char) : List Char × List Char :=
  let word := cs.takeWhile isWordChar
  match cs.dropWhile isWordChar with
  | ' ' :: rest =>
    if (takeDate? word).any (fun (_, behind) => behind.isEmpty) && startsTime rest then
      (word ++ ' ' :: rest.takeWhile isWordChar, rest.dropWhile isWordChar)
    else (word, ' ' :: rest)
  | rest => (word, rest)

/-- A value that is one word, and the rest. -/
def readWord (cs : List Char) : Option (Value × List Char) :=
  let (word, rest) := takeWord cs
  (valueOfWord? word).map fun v => (v, rest)

end SessionKeeper.Config.Toml
