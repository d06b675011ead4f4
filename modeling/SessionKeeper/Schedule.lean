import SessionKeeper.Error
import SessionKeeper.Text.Blank
import SessionKeeper.Text.Digits

/-!
Schedules in the notation of cron with seconds: six fields, from the seconds to the day of the week,
and perhaps a seventh for the year. A field is a list of values, ranges and steps; the days of the
month and of the week can also be counted from the end of a month. Names of months and days stand
for their numbers wherever they occur, and some schedules have names of their own.
-/

namespace SessionKeeper

/-- Which of the days of a month that fall on the same day of the week are meant. -/
inductive Weekly where
  /-- All of them. -/
  | every
  /-- The one with the given number, counted from 1. -/
  | nth (n : Nat)
  /-- The last one. -/
  | last
deriving DecidableEq, Repr

/-- One entry of a field. -/
inductive ScheduleTerm where
  /-- The values from `first` to `last`, `step` apart. -/
  | range (first last step : Nat) (which : Weekly)
  /-- The working day that is nearest to a day of the month. -/
  | nearestWorkday (day : Nat)
  /-- The last day there is. -/
  | lastDay
deriving DecidableEq, Repr

/-- When something is to be done. -/
structure Schedule where
  /-- The seconds. -/
  seconds : List ScheduleTerm
  /-- The minutes. -/
  minutes : List ScheduleTerm
  /-- The hours. -/
  hours : List ScheduleTerm
  /-- The days of the month. -/
  days : List ScheduleTerm
  /-- The months. -/
  months : List ScheduleTerm
  /-- The days of the week, of which both 0 and 7 are Sunday. -/
  weekdays : List ScheduleTerm
  /-- The years. -/
  years : List ScheduleTerm
deriving DecidableEq, Repr

/-- What a field may hold. -/
structure FieldRule where
  /-- The least value. -/
  least : Nat
  /-- The greatest value. -/
  greatest : Nat
  /-- Characters that may stand in the field besides digits and the common marks. -/
  marks : List Char := []
  /-- Whether the last day can be meant. -/
  hasLast : Bool := false
  /-- Whether one of several days of the week can be meant. -/
  hasNth : Bool := false
  /-- Whether the nearest working day can be meant. -/
  hasWorkday : Bool := false

namespace FieldRule

/-- Seconds and minutes. -/
def sixty : FieldRule := { least := 0, greatest := 59 }

/-- Hours. -/
def hours : FieldRule := { least := 0, greatest := 23 }

/-- Days of the month. -/
def days : FieldRule :=
  { least := 1, greatest := 31, marks := ['L', 'W'], hasLast := true, hasWorkday := true }

/-- Months. -/
def months : FieldRule := { least := 1, greatest := 12 }

/-- Days of the week. -/
def weekdays : FieldRule :=
  { least := 0, greatest := 7, marks := ['#', 'L'], hasLast := true, hasNth := true }

/-- Years. -/
def years : FieldRule := { least := 1, greatest := 9999 }

end FieldRule

namespace Schedule

/-! ### Names -/

/-- What the names of days stand for. A Sunday that ends a range is the seventh day. -/
def dayNames : List (String × String) :=
  [("-SUN", "-7"), ("SUN", "0"), ("MON", "1"), ("TUE", "2"), ("WED", "3"), ("THU", "4"),
    ("FRI", "5"), ("SAT", "6")]

/-- What the names of months stand for. -/
def monthNames : List (String × String) :=
  [("JAN", "1"), ("FEB", "2"), ("MAR", "3"), ("APR", "4"), ("MAY", "5"), ("JUN", "6"),
    ("JUL", "7"), ("AUG", "8"), ("SEP", "9"), ("OCT", "10"), ("NOV", "11"), ("DEC", "12")]

/-- What the names of schedules stand for. -/
def scheduleNames : List (String × String) :=
  [("@YEARLY", "0 0 1 1 *"), ("@ANNUALLY", "0 0 1 1 *"), ("@MONTHLY", "0 0 1 * *"),
    ("@WEEKLY", "0 0 * * 0"), ("@DAILY", "0 0 * * *"), ("@MIDNIGHT", "0 0 * * *"),
    ("@HOURLY", "0 * * * *")]

/-- The capital of a letter, where it is one of the letters of names. -/
def capital (c : Char) : Char :=
  if c = 'ſ' then 'S' else if c = 'ı' then 'I' else c.toUpper

/-- Put in what a name of a schedule stands for; a schedule that has a name is one of whole
minutes. -/
def expandName (s : String) : String :=
  if s.contains '@' then "0 " ++ (scheduleNames.lookup s).getD s else s

/-- Put in what names stand for, wherever they occur. -/
def expandNames (s : String) : String :=
  (dayNames ++ monthNames).foldl (fun s (name, number) => s.replace name number) s

/-! ### Fields -/

/-- A number of at most 65535. -/
def readNumber? (cs : List Char) : Option Nat := (Text.readNat? cs).filter (· < UInt16.size)

/-- Split an entry into what stands before a number sign and which days are meant. -/
def splitWhich? (cs : List Char) : Option (List Char × Weekly) :=
  let before := cs.takeWhile (· != '#')
  let behind := (cs.dropWhile (· != '#')).drop 1
  if cs.getLast? = some 'L' then some (before, .last)
  else if before.length = cs.length then some (before, .every)
  else
    match readNumber? behind with
    | some n => if 1 ≤ n ∧ n ≤ 5 then some (before, .nth n) else none
    | none => none

/-- Two numbers that bound a range. -/
def readBounds? (cs : List Char) : Option (Nat × Nat) :=
  match Text.splitOnChar '-' cs with
  | [first, last] =>
    match readNumber? first, readNumber? last with
    | some first, some last => some (first, last)
    | _, _ => none
  | _ => none

/-- The entry for a range, if it keeps to the bounds of the field. -/
def rangeWithin? (rule : FieldRule) (bounds : Nat × Nat) (step : Nat) (which : Weekly) :
    Option ScheduleTerm :=
  if rule.least ≤ bounds.1 ∧ bounds.1 ≤ bounds.2 ∧ bounds.2 ≤ rule.greatest ∧ 1 ≤ step then
    some (.range bounds.1 bounds.2 step which)
  else none

/-- The bounds of what is stepped through: everything, a range, or all from one value on. -/
def steppedBounds? (rule : FieldRule) (cs : List Char) : Option (Nat × Nat) :=
  if cs = ['*'] then some (rule.least, rule.greatest)
  else if cs.contains '-' then readBounds? cs
  else (readNumber? cs).map fun first => (first, rule.greatest)

/-- An entry with a step. -/
def readStepped? (rule : FieldRule) (cs : List Char) : Option ScheduleTerm := do
  let (cs, which) ← splitWhich? cs
  match Text.splitOnChar '/' cs with
  | [range, step] =>
    let step ← readNumber? step
    rangeWithin? rule (← steppedBounds? rule range) step which
  | _ => none

/-- An entry that is a range. -/
def readRange? (rule : FieldRule) (cs : List Char) : Option ScheduleTerm := do
  let (cs, which) ← splitWhich? cs
  rangeWithin? rule (← readBounds? cs) 1 which

/-- An entry that means the nearest working day. -/
def readWorkday? (rule : FieldRule) (cs : List Char) : Option ScheduleTerm :=
  match readNumber? (cs.takeWhile (· != 'W')) with
  | some day =>
    if rule.hasWorkday ∧ rule.least ≤ day ∧ day ≤ rule.greatest then some (.nearestWorkday day)
    else none
  | none => none

/-- An entry that is one value; an `L` right behind it means the last of several. -/
def readValue? (rule : FieldRule) (cs : List Char) : Option ScheduleTerm :=
  let cs := if cs.getLast? = some 'L' ∧ !cs.contains '#' then cs.dropLast ++ ['#', 'L'] else cs
  if (cs.contains '#' ∨ cs.contains 'L') ∧ !rule.hasNth then none
  else do
    let (cs, which) ← splitWhich? cs
    let n ← readNumber? cs
    rangeWithin? rule (n, n) 1 which

/-- An entry of a field. -/
def readTerm? (rule : FieldRule) (cs : List Char) : Option ScheduleTerm :=
  if cs.contains '/' then readStepped? rule cs
  else if cs.contains '-' then readRange? rule cs
  else if cs.contains 'W' then readWorkday? rule cs
  else if cs = ['L'] then if rule.hasLast then some .lastDay else none
  else readValue? rule cs

/-- Whether a character may stand in a field. -/
def admits (rule : FieldRule) (c : Char) : Bool :=
  c == '*' || c == '/' || c == '-' || c == ',' || (Text.digit? c).isSome || rule.marks.contains c

/-- A field: entries with commas between them, of which empty ones say nothing. -/
def readField? (rule : FieldRule) (cs : List Char) : Option (List ScheduleTerm) :=
  if !cs.all (admits rule) then none
  else if cs = ['*'] then some [.range rule.least rule.greatest 1 .every]
  else ((Text.splitOnChar ',' cs).filter fun part => !part.isEmpty).mapM (readTerm? rule)

/-- A day field, in which a question mark means everything. -/
def readDayField? (rule : FieldRule) (cs : List Char) : Option (List ScheduleTerm) :=
  readField? rule (cs.map fun c => if c = '?' then '*' else c)

/-! ### Schedules -/

/-- The schedule that fields spell. -/
def ofFields? : List (List Char) → Option Schedule
  | second :: minute :: hour :: day :: month :: weekday :: rest => do
    let year ← match rest with
      | [] => some ['*']
      | [year] => some year
      | _ => none
    some {
      seconds := ← readField? .sixty second
      minutes := ← readField? .sixty minute
      hours := ← readField? .hours hour
      days := ← readDayField? .days day
      months := ← readField? .months month
      weekdays := ← readDayField? .weekdays weekday
      years := ← readField? .years year }
  | _ => none

/-- Read a schedule. -/
def ofText? (s : String) : Option Schedule :=
  let capitals := String.ofList ((Text.trim s).toList.map capital)
  ofFields? (Text.words (expandNames (expandName capitals)).toList)

/-- The error of a cleanup schedule that cannot be read. -/
def invalidError (text : String) : Error :=
  .plain .configuration
    ("Invalid cleanup schedule '" ++ text ++ "': not a list of six fields that make sense")

end Schedule

end SessionKeeper
