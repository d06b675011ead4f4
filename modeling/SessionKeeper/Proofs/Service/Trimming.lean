import SessionKeeper.Proofs.Service.Draws
import SessionKeeper.Proofs.Service.Unobserved
import SessionKeeper.Proofs.Store.Trimming

/-!
# What a cleanup cycle deletes

A cycle purges until nothing is left to purge or as many tokens are deleted as may be. What it
comes to is found by induction along its purges: each of them takes outlived tokens to which nothing
points, and the cycle that goes on after it starts from a store with the remaining ones
(`perform_purgeAll_trims`). Cycles one after the other take nothing but outlived tokens either,
whatever their batch sizes, and a cycle that deletes nothing has found none. So all ways of cleaning
up at one instant end with the same rows. Nothing of this depends on new draws: links lead upwards
and rows are found by their hashes in every run.
-/

namespace SessionKeeper

namespace Memory

variable {m : Memory} {gone : List Token}

/-- What every run keeps, whichever draws are repeated. -/
structure Tidy (m : Memory) : Prop where
  orderly : m.Orderly
  ascending : m.Ascending
  findable : m.Findable

theorem tidy_empty : empty.Tidy := ⟨orderly_empty, ascending_empty, by simp [Findable, empty]⟩

theorem Tidy.apply (h : m.Tidy) {o : Operation}
    (hnew : ∀ u, o.Enters u → u.replacedBy = none) : (m.apply o).Tidy :=
  ⟨h.orderly.apply o, h.ascending.effect h.orderly hnew (h.orderly.apply_effect o),
    h.findable.effect h.orderly (h.orderly.apply_effect o)⟩

theorem Tidy.drop (h : m.Tidy) (hgone : ∀ d ∈ gone, d ∈ m.tokens) : (m.dropTokens gone).Tidy :=
  ⟨h.orderly.drop gone, h.ascending.drop gone, h.findable.drop hgone rfl rfl⟩

theorem Tidy.drop_outlived (h : m.Tidy) {cutoff : Instant}
    (hgone : ∀ d ∈ gone, d ∈ m.outlived cutoff) : (m.dropTokens gone).Tidy :=
  h.drop fun d hd => (mem_outlived.mp (hgone d hd)).1

end Memory

namespace Service

open Memory

namespace System

/-- The store is tidy in the course of any run. -/
theorem tidy_runUnder (fresh : Mark → Bool) (settings : Settings) (start : Instant)
    (es : List Event) : (runUnder fresh settings start es).memory.Tidy := by
  suffices h : (runUnder fresh settings start es).memory.Tidy ∧
      (runUnder fresh settings start es).CustodyOf fresh from h.1
  refine runUnder_invariant (I := fun σ => σ.memory.Tidy ∧ σ.CustodyOf fresh) ?_ ?_ ?_ es
  · exact ⟨tidy_empty, by simp, by simp, by simp, by simp [Memory.empty]⟩
  · exact fun h => ⟨h.1, h.2.forget⟩
  · rintro σ σ' ev ⟨htidy, hcustody⟩ hs
    refine ⟨?_, hcustody.step htidy.orderly hs⟩
    rcases hs.memory with hm | ⟨o, hp, hm⟩
    · rw [hm]
      exact htidy
    · rw [hm]
      -- whatever a call enters has not been replaced yet
      refine htidy.apply fun u hu => ?_
      obtain ⟨-, -, -, hunspent⟩ := hcustody.held_of_enters hp hu
      simp only [Token.isSpent, Bool.or_eq_false_iff, Option.isSome_eq_false_iff,
        Option.isNone_iff_eq_none] at hunspent
      exact hunspent.2

end System

namespace Scene

variable {w : Scene} {cutoff : Instant}

/-! ## One cycle -/

/-- What is left of a cycle takes as many of the outlived tokens as it may. -/
theorem perform_purgeAll_trims (htidy : w.memory.Tidy) (cutoff : Instant)
    (budget deleted passes : Nat) :
    ∃ gone more, w.perform (Cleanup.purgeAll cutoff budget deleted passes) =
        (.ok ⟨cutoff, deleted + gone.length, passes + more⟩,
          { w with memory := w.memory.dropTokens gone }) ∧
      w.memory.Trims cutoff (budget - deleted) gone more := by
  have ho := htidy.orderly
  have ha := htidy.ascending
  induction deleted, passes using Cleanup.purgeAll.induct budget generalizing w with
  | case1 deleted passes hbelow ih =>
    rw [perform_purgeAll_below hbelow]
    by_cases hnothing : w.memory.doomed cutoff ((budget - deleted : Nat) : Int) = []
    · refine ⟨[], 0, ?_, ?_⟩
      · rw [if_pos hnothing, Memory.dropTokens_nil]
        rfl
      · have hlength := w.memory.length_doomed cutoff (budget - deleted)
        rw [hnothing, List.length_nil] at hlength
        refine trims_nil ha ho (.inr (List.eq_nil_of_length_eq_zero ?_))
        omega
    · rw [if_neg hnothing]
      generalize hdoomed : w.memory.doomed cutoff ((budget - deleted : Nat) : Int) = doomed at *
      have hstored : ∀ d ∈ doomed, d ∈ w.memory.tokens := by
        intro d hd
        rw [← hdoomed] at hd
        exact (mem_of_doomed hd).1
      have htidy' := htidy.drop hstored
      obtain ⟨gone, more, hperform, htrims⟩ := ih doomed.length (by simpa using hnothing)
        (w := { w with memory := w.memory.dropTokens doomed }) htidy' htidy'.orderly
        htidy'.ascending
      refine ⟨doomed ++ gone, more + 1, ?_, ?_⟩
      · rw [hperform, Memory.dropTokens_append, List.length_append, Nat.add_assoc, Nat.add_assoc,
          Nat.add_comm 1 more]
      · have hlimit : budget - (deleted + doomed.length) = budget - deleted - doomed.length := by
          omega
        rw [hlimit] at htrims
        subst hdoomed
        exact .after_purge ha ho hnothing htrims
  | case2 deleted passes hspent =>
    refine ⟨[], 0, ?_, ?_⟩
    · rw [perform_purgeAll_spent hspent, Memory.dropTokens_nil]
      rfl
    · exact trims_nil ha ho (.inl (by omega))

theorem perform_runOnce_trims {s : CleanupSettings} {retention : Span} (htidy : w.memory.Tidy)
    (hbatch : 1 ≤ s.batchSize) (hretention : s.retention = .ok retention)
    (hcutoff : w.clock.sub? retention = some cutoff) :
    ∃ gone passes, w.perform (Cleanup.runOnce s) =
        (.ok ⟨cutoff, gone.length, passes⟩, { w with memory := w.memory.dropTokens gone }) ∧
      w.memory.Trims cutoff s.batchSize.toNat gone passes := by
  have hbudget : s.budget = .ok s.batchSize := if_neg (by omega)
  have hkept : (s.retention.bind fun retention => Cleanup.cutoff retention w.clock) =
      .ok cutoff := by
    simp only [hretention, Except.bind, Cleanup.cutoff, hcutoff]
  obtain ⟨gone, passes, hperform, htrims⟩ :=
    perform_purgeAll_trims htidy cutoff s.batchSize.toNat 0 0
  refine ⟨gone, passes, ?_, htrims⟩
  rw [perform_runOnce_eq, hbudget, hkept]
  simpa only [Nat.zero_add] using hperform

/-! ## One cycle after the other -/

/-- The scene after cleanup cycles at one instant, with one batch size after the other. -/
def afterCycles (w : Scene) (s : CleanupSettings) (sizes : List Int) : Scene :=
  sizes.foldl (fun w size => (w.perform (Cleanup.runOnce { s with batchSize := size })).2) w

/-- Cycles delete nothing but outlived tokens, and each cycle one at least, while there are any. -/
theorem afterCycles_eq {s : CleanupSettings} {retention : Span} {sizes : List Int}
    (htidy : w.memory.Tidy) (hsizes : ∀ size ∈ sizes, 1 ≤ size)
    (hretention : s.retention = .ok retention) (hcutoff : w.clock.sub? retention = some cutoff) :
    ∃ gone, w.afterCycles s sizes = { w with memory := w.memory.dropTokens gone } ∧
      (∀ d ∈ gone, d ∈ w.memory.outlived cutoff) ∧ gone.Nodup ∧
      min sizes.length (w.memory.outlived cutoff).length ≤ gone.length := by
  induction sizes generalizing w with
  | nil => exact ⟨[], by rw [Memory.dropTokens_nil]; rfl, by simp, .nil, by simp⟩
  | cons size sizes ih =>
    have hsize : 1 ≤ size := hsizes size (by simp)
    obtain ⟨first, passes, hperform, htrims⟩ :=
      perform_runOnce_trims (s := { s with batchSize := size }) htidy hsize hretention hcutoff
    have hlength := htidy.ascending.length_outlived htidy.orderly htrims.outlived htrims.nodup
    have hleft := fun {t} => htidy.ascending.mem_outlived_dropTokens (t := t) htidy.orderly
      htrims.outlived
    obtain ⟨gone, hcycles, hout, hnodup, hcount⟩ :=
      ih (w := { w with memory := w.memory.dropTokens first })
        (htidy.drop_outlived htrims.outlived)
        (fun size hs => hsizes size (List.mem_cons_of_mem _ hs)) hcutoff
    refine ⟨first ++ gone, ?_, ?_, ?_, ?_⟩
    · rw [Memory.dropTokens_append, ← hcycles, afterCycles, List.foldl_cons, hperform]
      rfl
    · intro d hd
      rcases List.mem_append.mp hd with hd | hd
      · exact htrims.outlived d hd
      · exact (hleft.mp (hout d hd)).1
    · rw [List.nodup_append]
      refine ⟨htrims.nodup, hnodup, ?_⟩
      rintro d hd t ht rfl
      exact (hleft.mp (hout d ht)).2 hd
    · have := htrims.count
      simp only [List.length_cons, List.length_append] at this hcount ⊢
      omega

/-- After cycles that have left nothing for the next one, the outlived tokens are gone. It does not
take more of them than there are such tokens. -/
theorem perform_runOnce_afterCycles {s : CleanupSettings} {retention : Span} {sizes : List Int}
    {size : Int} (htidy : w.memory.Tidy) (hsizes : ∀ size ∈ sizes, 1 ≤ size) (hsize : 1 ≤ size)
    (hretention : s.retention = .ok retention) (hcutoff : w.clock.sub? retention = some cutoff) :
    ∃ deleted passes m', (w.afterCycles s sizes).perform
        (Cleanup.runOnce { s with batchSize := size }) =
          (.ok ⟨cutoff, deleted, passes⟩, { w with memory := m' }) ∧
      ((w.memory.outlived cutoff).length ≤ sizes.length → deleted = 0) ∧
      (deleted = 0 → m' = w.memory.dropTokens (w.memory.outlived cutoff)) := by
  obtain ⟨gone, hcycles, hout, hnodup, hcount⟩ := afterCycles_eq htidy hsizes hretention hcutoff
  have hlength := htidy.ascending.length_outlived htidy.orderly hout hnodup
  obtain ⟨last, passes, hperform, htrims⟩ :=
    perform_runOnce_trims (w := { w with memory := w.memory.dropTokens gone })
      (s := { s with batchSize := size }) (htidy.drop_outlived hout) hsize hretention hcutoff
  have hlast := htrims.count
  simp only at hlast
  refine ⟨last.length, passes, (w.memory.dropTokens gone).dropTokens last, ?_, ?_, ?_⟩
  · rw [hcycles]
    exact hperform
  · intro hle
    omega
  · intro hnone
    -- nothing outlived is left, so the deleted tokens are all of them
    have hleft : ((w.memory.dropTokens gone).outlived cutoff) = [] :=
      List.eq_nil_of_length_eq_zero (by omega)
    have hall : ∀ t, t ∈ gone ↔ t ∈ w.memory.outlived cutoff := by
      intro t
      refine ⟨hout t, ?_⟩
      intro ht
      by_contra hnot
      have hmem := (htidy.ascending.mem_outlived_dropTokens htidy.orderly hout).mpr ⟨ht, hnot⟩
      rw [hleft] at hmem
      cases hmem
    rw [List.eq_nil_of_length_eq_zero hnone, Memory.dropTokens_nil, Memory.dropTokens_congr hall]

end Scene

namespace System

/-! ## Every run -/

/-- After any run, whichever draws are repeated, let a cleanup cycle with acceptable settings go
through. It ends and reports what it has deleted, it changes nothing else, and it deletes as many of
the outlived tokens as it may. How many these are does not matter in the end: once cycles at one
instant, of any sizes, are followed by one that deletes nothing, just the outlived tokens are gone,
and that is so after as many cycles as there are such tokens. -/
theorem cleanup_trims_chains (fresh : Mark → Bool) (settings : Settings) (start : Instant)
    (es : List Event) (cleanup : CleanupSettings) (surroundings : Surroundings) (retention : Span)
    (cutoff : Instant) (hbatch : 1 ≤ cleanup.batchSize)
    (hretention : cleanup.retention = .ok retention)
    (hcutoff : surroundings.clock.sub? retention = some cutoff) :
    let m := (runUnder fresh settings start es).memory
    let w : Scene := ⟨m, surroundings⟩
    (∃ gone passes m',
      w.perform (Cleanup.runOnce cleanup) =
        (.ok ⟨cutoff, gone.length, passes⟩, ⟨m', surroundings⟩) ∧
      m.Without gone m' ∧ m.Trims cutoff cleanup.batchSize.toNat gone passes ∧
      ((m.outlived cutoff).length ≤ cleanup.batchSize.toNat →
        ∀ t, t ∈ gone ↔ t ∈ m.outlived cutoff)) ∧
    ∀ sizes : List Int, (∀ size ∈ sizes, 1 ≤ size) → ∀ size : Int, 1 ≤ size →
      ∃ deleted passes m',
        (w.afterCycles cleanup sizes).perform
            (Cleanup.runOnce { cleanup with batchSize := size }) =
          (.ok ⟨cutoff, deleted, passes⟩, ⟨m', surroundings⟩) ∧
        ((m.outlived cutoff).length ≤ sizes.length → deleted = 0) ∧
        (deleted = 0 → m.Without (m.outlived cutoff) m') := by
  intro m w
  have htidy : m.Tidy := tidy_runUnder fresh settings start es
  have hwithout : ∀ gone, (∀ d ∈ gone, d ∈ m.outlived cutoff) →
      m.Without gone (m.dropTokens gone) := fun gone hgone =>
    htidy.findable.without htidy.orderly fun d hd => (mem_outlived.mp (hgone d hd)).1
  constructor
  · obtain ⟨gone, passes, hperform, htrims⟩ :=
      Scene.perform_runOnce_trims (w := w) htidy hbatch hretention hcutoff
    exact ⟨gone, passes, _, hperform, hwithout gone htrims.outlived, htrims,
      fun hle t => htrims.mem_iff hle⟩
  · intro sizes hsizes size hsize
    obtain ⟨deleted, passes, m', hperform, hdone, hend⟩ :=
      Scene.perform_runOnce_afterCycles (w := w) htidy hsizes hsize hretention hcutoff
    refine ⟨deleted, passes, m', hperform, hdone, ?_⟩
    intro hnone
    rw [hend hnone]
    exact hwithout _ fun _ hd => hd

/-- A token that has been exchanged for a second, and this for a third. A month later the first two
are outlived: a cycle deletes them in two purges. So do two cycles that may delete one token each,
and the third cycle after them deletes nothing. -/
theorem cleanup_trims_chains_exchanged :
    let m := (runUnder (fun _ => true) { database := { url := "" } } ⟨0, false⟩
      (exchange ++ exchangeAgain)).memory
    let cutoff : Instant := ⟨2592000000000001, false⟩
    let w : Scene := ⟨m, ⟨cutoff, fun _ => [], 0⟩⟩
    (∃ gone m', w.perform (Cleanup.runOnce { retentionHours := 0 }) =
        (.ok ⟨cutoff, 2, 2⟩, ⟨m', w.surroundings⟩) ∧
      m.Without gone m' ∧ (m.outlived cutoff).length = 2 ∧ m.LongestChain cutoff 2 ∧
      ∀ t, t ∈ gone ↔ t ∈ m.outlived cutoff) ∧
    ∃ passes m', (w.afterCycles { retentionHours := 0 } [1, 1]).perform
        (Cleanup.runOnce { retentionHours := 0, batchSize := 1 }) =
          (.ok ⟨cutoff, 0, passes⟩, ⟨m', w.surroundings⟩) ∧
      m.Without (m.outlived cutoff) m' := by
  intro m cutoff w
  obtain ⟨⟨gone, passes, m', hperform, hwithout, htrims, hall⟩, hcycles⟩ :=
    cleanup_trims_chains (fun _ => true) { database := { url := "" } } ⟨0, false⟩
      (exchange ++ exchangeAgain) { retentionHours := 0 } ⟨cutoff, fun _ => [], 0⟩ ⟨0⟩ cutoff
      (by decide) rfl (by decide)
  have hreport : (w.perform (Cleanup.runOnce { retentionHours := 0 })).1.toOption =
      some ⟨cutoff, 2, 2⟩ := by decide +kernel
  rw [show w.perform _ = _ from hperform] at hreport
  simp only [Except.toOption, Option.some.injEq, CleanupReport.mk.injEq, true_and] at hreport
  obtain ⟨hgone, rfl⟩ := hreport
  have hcount : gone.length = min 10000 (m.outlived cutoff).length := htrims.count
  have hlength : (m.outlived cutoff).length = 2 := by omega
  have hle : (m.outlived cutoff).length ≤ 10000 := by omega
  obtain ⟨deleted, more, m'', hlast, hdone, hend⟩ := hcycles [1, 1] (by simp) 1 (by simp)
  obtain rfl := hdone hlength.le
  rw [hgone] at hperform
  exact ⟨⟨gone, m', hperform, hwithout, hlength, htrims.passes hle, hall hle⟩,
    more, m'', hlast, hend rfl⟩

end System

end Service

end SessionKeeper
