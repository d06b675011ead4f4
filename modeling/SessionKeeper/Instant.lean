import SessionKeeper.Calendar

/-!
Instants and spans of time, exact to the nanosecond. An instant is a place on the line of
nanoseconds from 1970-01-01T00:00:00Z, days counting 86400 seconds each, or a reading of a clock in
a leap second, which the line has no place for of its own. Such a reading comes behind all of second
59 and before the next minute, and a span that leads from it into the next minute has counted the
leap second. Sums and differences are exact, and there is no result where the calendar ends:
representable are the years from -262143 to 262142.
-/

namespace SessionKeeper

/-- A span of time, of either sign. -/
@[ext]
structure Span where
  /-- Its length in nanoseconds. -/
  nanos : Int
deriving DecidableEq, Repr

namespace Span

instance : Neg Span := ⟨fun s => ⟨-s.nanos⟩⟩

@[simp] theorem nanos_neg (s : Span) : (-s).nanos = -s.nanos := rfl

/-- The number of nanoseconds in a second. -/
def perSecond : Int := 1000000000

/-- A whole number of milliseconds. -/
def ofMillis (n : Int) : Span := ⟨n * 1000000⟩

/-- A whole number of seconds. -/
def ofSeconds (n : Int) : Span := ⟨n * perSecond⟩

/-- A whole number of hours. -/
def ofHours (n : Int) : Span := ⟨n * (3600 * perSecond)⟩

/-- The longest span: a signed 64-bit word of milliseconds. -/
def limit : Int := 9223372036854775807 * 1000000

/-- Spans are limited to `limit` in both directions. -/
def inRange (s : Span) : Bool := -limit ≤ s.nanos && s.nanos ≤ limit

/-- A whole number of seconds, unless that is longer than the longest span. -/
def ofSeconds? (n : Int) : Option Span :=
  if (ofSeconds n).inRange then some (ofSeconds n) else none

/-- Whether the span is longer than nothing. -/
def isPositive (s : Span) : Bool := 0 < s.nanos

/-- The span in whole seconds, cut off toward zero. -/
def wholeSeconds (s : Span) : Int := s.nanos.tdiv perSecond

end Span

/-- An instant of coordinated universal time. -/
structure Instant where
  /-- Nanoseconds since 1970-01-01T00:00:00Z. -/
  nanos : Int
  /-- Whether the instant was read off a clock that showed second 60. It then has the `nanos` that
  are as far into the next minute as it is into its second, but it is written as it was read, comes
  before all of the next minute, and has the rest of its second still before it: a sum that leads
  out of the leap second ends one second earlier on the line than `nanos` and the span make. -/
  leap : Bool := false
deriving DecidableEq, Repr

namespace Instant

instance : Inhabited Instant := ⟨⟨0, false⟩⟩

/-- The second of the line that an instant lies in. A leap second goes with the one before it. -/
def second (t : Instant) : Int := t.nanos / Span.perSecond - if t.leap then 1 else 0

/-- The place of an instant among all readings of a clock, where every second has room for a leap
second behind it. -/
def rank (t : Instant) : Int := t.second * Span.perSecond + t.nanos

/-- The order of the seconds, and within a second that of the readings, the leap second last. -/
instance : LE Instant := ⟨fun a b => a.rank ≤ b.rank⟩

instance : LT Instant := ⟨fun a b => a.rank < b.rank⟩

instance (a b : Instant) : Decidable (a ≤ b) := Int.decLe _ _

instance (a b : Instant) : Decidable (a < b) := Int.decLt _ _

theorem le_def {a b : Instant} : a ≤ b ↔ a.rank ≤ b.rank := Iff.rfl

theorem lt_def {a b : Instant} : a < b ↔ a.rank < b.rank := Iff.rfl

/-- No two readings have the same place. -/
theorem rank_inj {a b : Instant} : a.rank = b.rank ↔ a = b := by
  refine ⟨fun h => ?_, congrArg rank⟩
  obtain ⟨m, k⟩ := a
  obtain ⟨n, l⟩ := b
  cases k <;> cases l <;> simp only [rank, second, Span.perSecond, Bool.false_eq_true, if_true,
    if_false, Instant.mk.injEq, and_true, reduceCtorEq, and_false] at h ⊢ <;> omega

/-- Nanoseconds in a day. -/
def perDay : Int := 86400 * Span.perSecond

/-- The first representable instant, -262143-01-01T00:00:00Z. -/
def first : Instant := ⟨-96465293 * perDay, false⟩

/-- The last representable instant outside a leap second, one nanosecond before the year 262143. -/
def last : Instant := ⟨95026237 * perDay - 1, false⟩

/-- Whether an instant lies within the calendar. -/
def inRange (t : Instant) : Bool := first.second ≤ t.second && t.second ≤ last.second

/-- The reading `s` after `t`. -/
def plus (t : Instant) (s : Span) : Instant :=
  let there := t.nanos + s.nanos
  if t.leap then
    -- how far into the leap second, or before or behind it
    let within := t.nanos % Span.perSecond + s.nanos
    if Span.perSecond ≤ within then ⟨there - Span.perSecond, false⟩
    else ⟨there, decide (0 ≤ within)⟩
  else ⟨there, false⟩

/-- The instant `s` after `t`, if the calendar reaches it. -/
def add? (t : Instant) (s : Span) : Option Instant :=
  if (t.plus s).inRange then some (t.plus s) else none

/-- The instant `s` before `t`, if the calendar reaches it. -/
def sub? (t : Instant) (s : Span) : Option Instant := t.add? (-s)

theorem add?_eq_some {t u : Instant} {s : Span} :
    t.add? s = some u ↔ u = t.plus s ∧ u.inRange = true := by
  unfold add?
  split
  · rename_i h
    rw [Option.some.injEq]
    exact ⟨fun hu => ⟨hu.symm, hu ▸ h⟩, fun hu => hu.1.symm⟩
  · rename_i h
    refine ⟨fun hu => ?_, fun ⟨hu, hin⟩ => absurd (hu ▸ hin) h⟩
    cases hu

theorem add?_eq_none {t : Instant} {s : Span} : t.add? s = none ↔ (t.plus s).inRange = false := by
  simp [add?]

/-- Outside a leap second the places on the line are added up. -/
theorem plus_of_not_leap {t : Instant} (h : t.leap = false) (s : Span) :
    t.plus s = ⟨t.nanos + s.nanos, false⟩ := by
  simp [plus, h]

/-- The instant from which a database counts its microseconds, 2000-01-01T00:00:00Z. -/
def databaseEpoch : Int := 10957 * perDay

/-- The instant as a database keeps it: whole microseconds, cut off toward the year 2000. What was
read in a leap second falls into the first second of the next minute. -/
def toMicros (t : Instant) : Instant :=
  ⟨databaseEpoch + (t.nanos - databaseEpoch).tdiv 1000 * 1000, false⟩

end Instant

end SessionKeeper
