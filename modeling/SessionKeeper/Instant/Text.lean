import SessionKeeper.Instant
import SessionKeeper.Text.Blank
import SessionKeeper.Text.Digits

/-!
Instants as text. Three forms are written: the interchange form of RFC 3339 with `Z`, the cells of
tables, which stop at the second, and the form of messages, which ends in `UTC`. A year outside
0 to 9999 carries a sign. One reader accepts the interchange form with any offset from universal
time, and is lenient about blanks before its parts and about missing leading zeros.
-/

namespace SessionKeeper.Instant

open SessionKeeper.Calendar

/-- What a clock and a calendar show at an instant. -/
structure Reading where
  /-- The date. -/
  date : Date
  /-- The hour, 0 to 23. -/
  hour : Nat
  /-- The minute, 0 to 59. -/
  minute : Nat
  /-- The second, 0 to 59, or 60 in a leap second. -/
  second : Nat
  /-- The nanosecond of the second. -/
  nano : Nat

/-- The reading of an instant. A leap second is read one second earlier and called second 60. -/
def reading (t : Instant) : Reading :=
  let n := if t.leap then t.nanos - Span.perSecond else t.nanos
  let seconds := n / Span.perSecond
  let ofDay := (seconds % 86400).toNat
  { date := dateOf (seconds / 86400)
    hour := ofDay / 3600
    minute := ofDay / 60 % 60
    second := ofDay % 60 + (if t.leap then 1 else 0)
    nano := (n % Span.perSecond).toNat }

/-- A year: four digits from 0 to 9999, elsewhere a sign and at least four digits. -/
def yearText (year : Int) : String :=
  if 0 ≤ year ∧ year ≤ 9999 then Text.zeroPad 4 year.toNat
  else if year < 0 then "-" ++ Text.zeroPad 4 year.natAbs
  else "+" ++ Text.zeroPad 4 year.natAbs

/-- Year, month and day with hyphens between them. -/
def dateText (d : Date) : String :=
  yearText d.year ++ "-" ++ Text.zeroPad 2 d.month ++ "-" ++ Text.zeroPad 2 d.day

/-- Hour, minute and second with colons between them. -/
def clockText (r : Reading) : String :=
  Text.zeroPad 2 r.hour ++ ":" ++ Text.zeroPad 2 r.minute ++ ":" ++ Text.zeroPad 2 r.second

/-- The fraction of a second: nothing, or the fewest of 3, 6 and 9 digits that are exact. -/
def fractionText (nano : Nat) : String :=
  if nano = 0 then ""
  else if nano % 1000000 = 0 then "." ++ Text.zeroPad 3 (nano / 1000000)
  else if nano % 1000 = 0 then "." ++ Text.zeroPad 6 (nano / 1000)
  else "." ++ Text.zeroPad 9 nano

/-- The interchange form, such as `2025-01-01T01:00:00.500Z`. -/
def toRfc3339 (t : Instant) : String :=
  let r := t.reading
  dateText r.date ++ "T" ++ clockText r ++ fractionText r.nano ++ "Z"

/-- The form of table cells, such as `2025-01-01 01:00:00`. -/
def toCell (t : Instant) : String :=
  let r := t.reading
  dateText r.date ++ " " ++ clockText r

/-- The form of messages, such as `2025-01-01 01:00:00.500 UTC`. -/
def toMessage (t : Instant) : String :=
  let r := t.reading
  dateText r.date ++ " " ++ clockText r ++ fractionText r.nano ++ " UTC"

/-! ### Reading -/

/-- Between one and `limit` decimal digits, and what follows them. -/
def readDigits (limit : Nat) (cs : List Char) : Option (Nat × List Char) :=
  let ds := (cs.take limit).takeWhile fun c => (Text.digit? c).isSome
  (Text.readNat? ds).map fun n => (n, cs.drop ds.length)

/-- A number of at most two digits, with blanks allowed before it. -/
def readTwo (cs : List Char) : Option (Nat × List Char) := readDigits 2 (Text.trimStart cs)

/-- A year: up to four digits, or a sign and any number of digits. -/
def readYear (cs : List Char) : Option (Int × List Char) :=
  match Text.trimStart cs with
  | '-' :: rest => (readDigits rest.length rest).map fun (n, r) => (-(n : Int), r)
  | '+' :: rest => (readDigits rest.length rest).map fun (n, r) => ((n : Int), r)
  | rest => (readDigits 4 rest).map fun (n, r) => ((n : Int), r)

/-- One given character, with blanks allowed before it. -/
def readMark (mark : Char) (cs : List Char) : Option (List Char) :=
  match Text.trimStart cs with
  | c :: rest => if c = mark then some rest else none
  | [] => none

/-- A fraction of a second, if there is one: nine digits count and further ones are skipped. -/
def readFraction : List Char → Option (Nat × List Char)
  | '.' :: cs => do
    let ds := (cs.take 9).takeWhile fun c => (Text.digit? c).isSome
    let n ← Text.readNat? ds
    let rest := (cs.drop ds.length).dropWhile fun c => (Text.digit? c).isSome
    some (n * Nat.pow 10 (9 - ds.length), rest)
  | cs => some (0, cs)

/-- Two digits exactly. -/
def readPair : List Char → Option (Nat × List Char)
  | a :: b :: rest =>
    match Text.digit? a, Text.digit? b with
    | some x, some y => some (10 * x + y, rest)
    | _, _ => none
  | _ => none

/-- An offset from universal time in seconds: `Z`, `UTC`, or a signed number of hours and
minutes. -/
def readOffset (cs : List Char) : Option (Int × List Char) :=
  if cs.take 1 = ['Z'] ∨ cs.take 1 = ['z'] then some (0, cs.drop 1)
  else if (cs.take 3).map Char.toUpper = ['U', 'T', 'C'] then some (0, cs.drop 3)
  else do
    let sign : Int ← match cs.head? with
      | some '+' => some 1
      | some '-' => some (-1)
      | some '\u2212' => some (-1)
      | _ => none
    let (hours, rest) ← readPair (cs.drop 1)
    let (minutes, rest) ← readPair (rest.dropWhile fun c => c == ':' || Text.isBlank c)
    if minutes < 60 ∧ hours < 24 then some (sign * (hours * 3600 + minutes * 60), rest) else none

/-- The instant at which a clock that is `offset` seconds ahead of universal time shows the given
date and time, if there is one. -/
def ofLocal? (year : Int) (month day hour minute second nano : Nat) (offset : Int) :
    Option Instant :=
  let valid := isDate year month day && hour < 24 && minute < 60 && second ≤ 60
  let leap := second == 60
  let clock : Int := dayNumber ⟨year, month, day⟩ * 86400 + hour * 3600 + minute * 60
  let here : Instant := ⟨(clock + second) * Span.perSecond + nano, leap⟩
  let there : Instant := ⟨here.nanos - offset * Span.perSecond, leap⟩
  if valid ∧ here.inRange ∧ there.inRange then some there else none

/-- Read the interchange form. Between date and time stands `T`, `t` or one blank. -/
def ofRfc3339? (s : String) : Option Instant := do
  let (year, cs) ← readYear s.toList
  let cs ← readMark '-' cs
  let (month, cs) ← readTwo cs
  let cs ← readMark '-' cs
  let (day, cs) ← readTwo cs
  let cs ← match cs with
    | 'T' :: rest => some rest
    | 't' :: rest => some rest
    | ' ' :: rest => some rest
    | _ => none
  let (hour, cs) ← readTwo cs
  let cs ← readMark ':' cs
  let (minute, cs) ← readTwo cs
  let cs ← readMark ':' cs
  let (second, cs) ← readTwo cs
  let (nano, cs) ← readFraction cs
  let (offset, cs) ← readOffset (Text.trimStart cs)
  if (Text.trimStart cs).isEmpty then ofLocal? year month day hour minute second nano offset
  else none

end SessionKeeper.Instant
