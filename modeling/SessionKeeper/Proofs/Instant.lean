import SessionKeeper.Instant

/-!
# Sums of instants and spans

A span leads from an instant along the line, and from a leap second before it, within it or behind
it (`Reaches`). How long one instant is after another is told by their places on the line and, if
the first was read in a leap second, by whether the other is behind it (`spanTo`). The reading that
a span leads to is the one that is so long after (`spanTo_plus`, `eq_plus_of_spanTo`). Longer spans
lead to the same second or a later one (`second_plus_le`), so whatever is between two spans that end
on the calendar ends on it as well.
-/

namespace SessionKeeper.Instant

variable {t u : Instant} {s : Span}

/-! ## Where a span leads -/

/-- Where a span leads from an instant. -/
inductive Reaches (t : Instant) (s : Span) : Instant → Prop where
  | line (hleap : t.leap = false) : Reaches t s ⟨t.nanos + s.nanos, false⟩
  | before (hleap : t.leap = true) (h : t.nanos % Span.perSecond + s.nanos < 0) :
      Reaches t s ⟨t.nanos + s.nanos, false⟩
  | within (hleap : t.leap = true) (h : 0 ≤ t.nanos % Span.perSecond + s.nanos)
      (h' : t.nanos % Span.perSecond + s.nanos < Span.perSecond) :
      Reaches t s ⟨t.nanos + s.nanos, true⟩
  | behind (hleap : t.leap = true) (h : Span.perSecond ≤ t.nanos % Span.perSecond + s.nanos) :
      Reaches t s ⟨t.nanos + s.nanos - Span.perSecond, false⟩

theorem reaches_plus (t : Instant) (s : Span) : Reaches t s (t.plus s) := by
  unfold plus
  split
  · rename_i hleap
    dsimp only
    split
    · rename_i h
      exact .behind hleap h
    · rename_i h
      by_cases h' : 0 ≤ t.nanos % Span.perSecond + s.nanos
      · rw [decide_eq_true h']
        exact .within hleap h' (Int.not_le.mp h)
      · rw [decide_eq_false h']
        exact .before hleap (Int.not_le.mp h')
  · rename_i hleap
    exact .line (Bool.not_eq_true _ ▸ hleap)

theorem Reaches.eq (h : Reaches t s u) : u = t.plus s := by
  unfold plus
  cases h with
  | line hleap => simp [hleap]
  | before hleap h =>
    have hsecond : ¬ Span.perSecond ≤ t.nanos % Span.perSecond + s.nanos := by
      simp only [Span.perSecond] at h ⊢
      omega
    simp [hleap, hsecond, h]
  | within hleap h h' => simp [hleap, h', h]
  | behind hleap h => simp [hleap, h]

/-- How long after `t` an instant is: the way between their places on the line, and one second more
if `t` was read in a leap second and the instant is behind it. -/
def spanTo (t u : Instant) : Span :=
  ⟨u.nanos - t.nanos + if t.leap = true ∧ u.leap = false ∧ t < u then Span.perSecond else 0⟩

theorem second_of_not_leap (h : t.leap = false) : t.second = t.nanos / Span.perSecond := by
  simp [second, h]

theorem second_of_leap (h : t.leap = true) : t.second = t.nanos / Span.perSecond - 1 := by
  simp [second, h]

/-- Outside leap seconds the order is that of the line. -/
theorem lt_iff_of_not_leap (ht : t.leap = false) (hu : u.leap = false) :
    t < u ↔ t.nanos < u.nanos := by
  rw [lt_def, rank, rank, second_of_not_leap ht, second_of_not_leap hu]
  simp only [Span.perSecond]
  omega

/-- Behind a leap second is what lies in a later second. -/
theorem lt_iff_of_leap (ht : t.leap = true) (hu : u.leap = false) :
    t < u ↔ t.nanos / Span.perSecond ≤ u.nanos / Span.perSecond := by
  rw [lt_def, rank, rank, second_of_leap ht, second_of_not_leap hu]
  simp only [Span.perSecond]
  omega

theorem spanTo_of_not_leap (h : t.leap = false) : t.spanTo u = ⟨u.nanos - t.nanos⟩ := by
  simp [spanTo, h]

theorem spanTo_of_leap (h : u.leap = true) : t.spanTo u = ⟨u.nanos - t.nanos⟩ := by
  simp [spanTo, h]

theorem spanTo_of_behind (ht : t.leap = true) (hu : u.leap = false)
    (h : t.nanos / Span.perSecond ≤ u.nanos / Span.perSecond) :
    t.spanTo u = ⟨u.nanos - t.nanos + Span.perSecond⟩ := by
  simp [spanTo, ht, hu, lt_iff_of_leap ht hu, h]

theorem spanTo_of_before (ht : t.leap = true) (hu : u.leap = false)
    (h : u.nanos / Span.perSecond < t.nanos / Span.perSecond) :
    t.spanTo u = ⟨u.nanos - t.nanos⟩ := by
  simp [spanTo, ht, hu, lt_iff_of_leap ht hu, Int.not_le.mpr h]

/-- A sum is exact. -/
theorem spanTo_plus (t : Instant) (s : Span) : t.spanTo (t.plus s) = s := by
  have hreach := reaches_plus t s
  generalize t.plus s = u at hreach
  ext
  cases hreach with
  | line hleap =>
    rw [spanTo_of_not_leap hleap]
    dsimp only
    omega
  | before hleap hbefore =>
    simp only [Span.perSecond] at hbefore
    rw [spanTo_of_before hleap rfl (by simp only [Span.perSecond]; omega)]
    dsimp only
    omega
  | within hleap =>
    rw [spanTo_of_leap rfl]
    dsimp only
    omega
  | behind hleap hbehind =>
    simp only [Span.perSecond] at hbehind
    rw [spanTo_of_behind hleap rfl (by simp only [Span.perSecond]; omega)]
    dsimp only
    omega

/-- There is no other reading that is so long after an instant, apart from one in a leap second that
the instant does not lie in. -/
theorem eq_plus_of_spanTo (h : t.spanTo u = s)
    (hleap : u.leap = true → t.leap = true ∧ u.second = t.second) : u = t.plus s := by
  subst h
  refine Reaches.eq ?_
  obtain ⟨n, leap⟩ := u
  cases leap with
  | true =>
    obtain ⟨ht, hsecond⟩ := hleap rfl
    rw [second_of_leap rfl, second_of_leap ht] at hsecond
    rw [spanTo_of_leap rfl]
    simp only [Span.perSecond] at hsecond
    have hplace : t.nanos + (n - t.nanos) = n := by omega
    have hreach := Reaches.within (s := ⟨n - t.nanos⟩) ht
      (by simp only [Span.perSecond]; omega) (by simp only [Span.perSecond]; omega)
    rwa [hplace] at hreach
  | false =>
    cases ht : t.leap with
    | false =>
      rw [spanTo_of_not_leap ht]
      have hreach := Reaches.line (s := ⟨n - t.nanos⟩) ht
      rwa [show t.nanos + (n - t.nanos) = n by omega] at hreach
    | true =>
      by_cases hbehind : t.nanos / Span.perSecond ≤ n / Span.perSecond
      · rw [spanTo_of_behind ht rfl hbehind]
        have hreach := Reaches.behind (s := ⟨n - t.nanos + Span.perSecond⟩) ht
          (by simp only [Span.perSecond] at hbehind ⊢; omega)
        rwa [show t.nanos + (n - t.nanos + Span.perSecond) - Span.perSecond = n by omega] at hreach
      · rw [spanTo_of_before ht rfl (Int.not_le.mp hbehind)]
        have hreach := Reaches.before (s := ⟨n - t.nanos⟩) ht
          (by simp only [Span.perSecond] at hbehind ⊢; omega)
        rwa [show t.nanos + (n - t.nanos) = n by omega] at hreach

/-! ## Longer and shorter spans -/

theorem lt_plus (h : 0 < s.nanos) : t < t.plus s := by
  have hreach := reaches_plus t s
  generalize t.plus s = u at hreach
  rw [lt_def, rank, rank]
  cases hreach with
  | line hleap =>
    rw [second_of_not_leap hleap, second_of_not_leap rfl]
    simp only [Span.perSecond]
    omega
  | before hleap hbefore =>
    simp only [Span.perSecond] at hbefore
    omega
  | within hleap _ hwithin =>
    rw [second_of_leap hleap, second_of_leap rfl]
    simp only [Span.perSecond] at hwithin ⊢
    omega
  | behind hleap hbehind =>
    rw [second_of_leap hleap, second_of_not_leap rfl]
    simp only [Span.perSecond] at hbehind ⊢
    omega

/-- Back on the line there is no leap second to be counted. -/
theorem nanos_plus_of_nonpos (h : s.nanos ≤ 0) : (t.plus s).nanos = t.nanos + s.nanos := by
  have hreach := reaches_plus t s
  generalize t.plus s = u at hreach
  cases hreach with
  | line | before | within => rfl
  | behind _ hbehind =>
    simp only [Span.perSecond] at hbehind
    omega

theorem second_plus_of_not_leap (h : t.leap = false) (s : Span) :
    (t.plus s).second = (t.nanos + s.nanos) / Span.perSecond := by
  rw [plus_of_not_leap h, second_of_not_leap rfl]

/-- From a leap second the seconds are counted in both directions, and it goes with the one that it
follows. -/
theorem second_plus_of_leap (h : t.leap = true) (s : Span) :
    (t.plus s).second = t.second +
      if t.nanos % Span.perSecond + s.nanos < 0 then
        (t.nanos % Span.perSecond + s.nanos) / Span.perSecond + 1
      else (t.nanos % Span.perSecond + s.nanos) / Span.perSecond := by
  have hreach := reaches_plus t s
  generalize t.plus s = u at hreach
  rw [second_of_leap h]
  cases hreach with
  | line hleap =>
    rw [h] at hleap
    cases hleap
  | before _ hbefore =>
    rw [if_pos hbefore, second_of_not_leap rfl]
    simp only [Span.perSecond]
    omega
  | within _ hwithin hbelow =>
    rw [if_neg (Int.not_lt.mpr hwithin), second_of_leap rfl]
    simp only [Span.perSecond] at hwithin hbelow ⊢
    omega
  | behind _ hbehind =>
    simp only [Span.perSecond] at hbehind
    rw [if_neg (by simp only [Span.perSecond]; omega), second_of_not_leap rfl]
    simp only [Span.perSecond]
    omega

/-- A longer span leads to the same second or a later one. -/
theorem second_plus_le {s s' : Span} (h : s.nanos ≤ s'.nanos) :
    (t.plus s).second ≤ (t.plus s').second := by
  cases hleap : t.leap with
  | false =>
    rw [second_plus_of_not_leap hleap, second_plus_of_not_leap hleap]
    simp only [Span.perSecond]
    omega
  | true =>
    rw [second_plus_of_leap hleap, second_plus_of_leap hleap]
    simp only [Span.perSecond]
    omega

/-! ## The calendar -/

/-- The calendar has the instant. -/
def OnCalendar (t : Instant) : Prop := first.second ≤ t.second ∧ t.second ≤ last.second

instance (t : Instant) : Decidable t.OnCalendar :=
  inferInstanceAs (Decidable (_ ≤ _ ∧ _ ≤ _))

theorem inRange_iff : t.inRange = true ↔ t.OnCalendar := by
  simp [inRange, OnCalendar]

theorem add?_of_onCalendar (h : (t.plus s).OnCalendar) : t.add? s = some (t.plus s) :=
  if_pos (inRange_iff.mpr h)

theorem add?_eq_none_iff : t.add? s = none ↔ ¬ (t.plus s).OnCalendar := by
  rw [add?_eq_none, ← inRange_iff, Bool.not_eq_true]

theorem onCalendar_of_add? (h : t.add? s = some u) : u.OnCalendar :=
  inRange_iff.mp (add?_eq_some.mp h).2

/-- Between two spans that end on the calendar every span does. -/
theorem onCalendar_plus_of_between {a b : Span} (ha : (t.plus a).OnCalendar)
    (hb : (t.plus b).OnCalendar) (hfrom : a.nanos ≤ s.nanos) (hto : s.nanos ≤ b.nanos) :
    (t.plus s).OnCalendar :=
  ⟨Int.le_trans ha.1 (second_plus_le hfrom), Int.le_trans (second_plus_le hto) hb.2⟩

/-- From half a second into a leap second, seven tenths lead two tenths into the next minute. -/
example : (Instant.mk 500000000 true).plus ⟨700000000⟩ = ⟨200000000, false⟩ := by decide

end SessionKeeper.Instant
