import Mathlib.Data.List.Chain
import Mathlib.Data.List.Nodup
import Mathlib.Data.List.Perm.Subperm
import SessionKeeper.Proofs.Store.Ascent
import SessionKeeper.Proofs.Store.Deletion

/-!
# Trimming chains from their old end

A token is `Outlived` when it and everything that leads to it is out of use and expired. Seen from
one row to the next, that is: the row is over, and so are, in the same sense, the rows linked to it
(`outlived_iff`). A purge takes outlived rows that nothing points to and leaves the rest of them
outlived, no row more and no row less (`mem_outlived_dropTokens`). As links lead upwards, there is
such a row whenever there is an outlived one (`exists_purgeable`), so purges one after the other
come to an end only when nothing outlived is left. Each purge that is not cut short takes the first
row of every chain, so it takes as many of them as the longest chain is long (`Trims`).
-/

namespace SessionKeeper

/-- The token is out of use, and it expired before the cutoff. -/
def Token.Over (cutoff : Instant) (t : Token) : Prop :=
  t.isCurrent = false ∧ t.expiresAt < cutoff

namespace Memory

variable {m : Memory} {cutoff : Instant} {t : Token} {gone : List Token}

/-! ## Outlived tokens -/

/-- The token and every stored token from which links lead to it are over. -/
def Outlived (m : Memory) (cutoff : Instant) (t : Token) : Prop :=
  ∀ u ∈ m.tokens, ∀ n, m.follow n u = some t → u.Over cutoff

open Classical in
/-- The outlived ones of the stored tokens. -/
noncomputable def outlived (m : Memory) (cutoff : Instant) : List Token :=
  m.tokens.filter fun t => decide (m.Outlived cutoff t)

theorem mem_outlived : t ∈ m.outlived cutoff ↔ t ∈ m.tokens ∧ m.Outlived cutoff t := by
  simp [outlived]

theorem Orderly.follow_succ (ho : m.Orderly) {u : Token} {n : Nat} :
    m.follow (n + 1) u = some t ↔
      ∃ v ∈ m.tokens, u.replacedBy = some v.id ∧ m.follow n v = some t := by
  simp only [follow, Option.bind_eq_some_iff, ho.token?_eq_some]
  constructor
  · rintro ⟨v, ⟨id, hid, hv, rfl⟩, hn⟩
    exact ⟨v, hv, hid, hn⟩
  · rintro ⟨v, hv, hid, hn⟩
    exact ⟨v, ⟨v.id, hid, hv, rfl⟩, hn⟩

/-- The last of the links that lead to a token. -/
theorem Orderly.follow_last (ho : m.Orderly) {u : Token} {n : Nat} (hu : u ∈ m.tokens) :
    m.follow (n + 1) u = some t ↔
      t ∈ m.tokens ∧ ∃ v ∈ m.tokens, m.follow n u = some v ∧ v.replacedBy = some t.id := by
  induction n generalizing u with
  | zero =>
    rw [ho.follow_succ]
    constructor
    · rintro ⟨v, hv, hid, hn⟩
      cases hn
      exact ⟨hv, u, hu, rfl, hid⟩
    · rintro ⟨ht, v, -, hn, hid⟩
      cases hn
      exact ⟨t, ht, hid, rfl⟩
  | succ n ih =>
    rw [ho.follow_succ]
    constructor
    · rintro ⟨v, hv, hid, hn⟩
      obtain ⟨ht, w, hw, hwn, hlink⟩ := (ih hv).mp hn
      exact ⟨ht, w, hw, ho.follow_succ.mpr ⟨v, hv, hid, hwn⟩, hlink⟩
    · rintro ⟨ht, w, hw, hn, hlink⟩
      obtain ⟨v, hv, hid, hvn⟩ := ho.follow_succ.mp hn
      exact ⟨v, hv, hid, (ih hv).mpr ⟨ht, w, hw, hvn, hlink⟩⟩

/-- A token is outlived if it is over and the tokens that are linked to it are outlived. -/
theorem Orderly.outlived_iff (ho : m.Orderly) (ht : t ∈ m.tokens) :
    m.Outlived cutoff t ↔
      t.Over cutoff ∧ ∀ v ∈ m.tokens, v.replacedBy = some t.id → m.Outlived cutoff v := by
  constructor
  · intro h
    refine ⟨h t ht 0 rfl, ?_⟩
    intro v hv hlink u hu n hn
    exact h u hu (n + 1) ((ho.follow_last hu).mpr ⟨ht, v, hv, hn, hlink⟩)
  · rintro ⟨hover, hbefore⟩ u hu n hn
    cases n with
    | zero =>
      cases hn
      exact hover
    | succ n =>
      obtain ⟨-, v, hv, hvn, hlink⟩ := (ho.follow_last hu).mp hn
      exact hbefore v hv hlink u hu n hvn

/-! ## What a purge can take -/

theorem isReferenced_eq_false {id : Uuid} :
    m.isReferenced id = false ↔ ∀ t ∈ m.tokens, t.replacedBy ≠ some id := by
  simp [isReferenced]

theorem mem_purgeable :
    t ∈ m.purgeable cutoff ↔
      t ∈ m.tokens ∧ t.Over cutoff ∧ ∀ u ∈ m.tokens, u.replacedBy ≠ some t.id := by
  simp only [purgeable, List.mem_filter, Bool.and_eq_true, decide_eq_true_eq, Bool.not_eq_true',
    isReferenced_eq_false, Token.Over]
  grind

theorem Orderly.mem_outlived_of_purgeable (ho : m.Orderly) (h : t ∈ m.purgeable cutoff) :
    t ∈ m.outlived cutoff := by
  obtain ⟨ht, hover, hfree⟩ := mem_purgeable.mp h
  refine mem_outlived.mpr ⟨ht, (ho.outlived_iff ht).mpr ⟨hover, ?_⟩⟩
  intro v hv hlink
  exact absurd hlink (hfree v hv)

/-- An outlived token to which nothing points can be purged. -/
theorem Outlived.purgeable (h : m.Outlived cutoff t) (ht : t ∈ m.tokens)
    (hfree : ∀ u ∈ m.tokens, u.replacedBy ≠ some t.id) : t ∈ m.purgeable cutoff :=
  mem_purgeable.mpr ⟨ht, h t ht 0 rfl, hfree⟩

/-- Where there is an outlived token, there is one that can be purged. -/
theorem Ascending.exists_purgeable (ha : m.Ascending) (ho : m.Orderly) (ht : t ∈ m.tokens)
    (h : m.Outlived cutoff t) : ∃ d, d ∈ m.purgeable cutoff := by
  obtain ⟨rank, hrank⟩ := ha
  -- going back along the links, ranks fall, so there is a first row
  induction hr : rank t.id using Nat.strongRecOn generalizing t with
  | ind r ih =>
    by_cases hfree : ∀ u ∈ m.tokens, u.replacedBy ≠ some t.id
    · exact ⟨t, h.purgeable ht hfree⟩
    · simp only [not_forall, not_not] at hfree
      obtain ⟨v, hv, hlink⟩ := hfree
      have hlower := hrank v hv t.id hlink
      exact ih (rank v.id) (by omega) hv (((ho.outlived_iff ht).mp h).2 v hv hlink) rfl

/-- Deleting outlived tokens leaves the others outlived, and makes none so. -/
theorem Ascending.mem_outlived_dropTokens (ha : m.Ascending) (ho : m.Orderly)
    (hgone : ∀ d ∈ gone, d ∈ m.outlived cutoff) :
    t ∈ (m.dropTokens gone).outlived cutoff ↔ t ∈ m.outlived cutoff ∧ t ∉ gone := by
  have hstored : ∀ d ∈ gone, d ∈ m.tokens := fun d hd => (mem_outlived.mp (hgone d hd)).1
  have hkept := fun {u} => ho.mem_dropTokens_iff (t := u) hstored
  have ho' := ho.drop gone
  suffices h : ∀ t ∈ (m.dropTokens gone).tokens,
      ((m.dropTokens gone).Outlived cutoff t ↔ m.Outlived cutoff t) by
    simp only [mem_outlived]
    constructor
    · rintro ⟨ht, hout⟩
      exact ⟨⟨(hkept.mp ht).1, (h t ht).mp hout⟩, (hkept.mp ht).2⟩
    · rintro ⟨⟨ht, hout⟩, hnot⟩
      exact ⟨hkept.mpr ⟨ht, hnot⟩, (h t (hkept.mpr ⟨ht, hnot⟩)).mpr hout⟩
  obtain ⟨rank, hrank⟩ := ha
  intro t ht
  induction hr : rank t.id using Nat.strongRecOn generalizing t with
  | ind r ih =>
    have hlower : ∀ v ∈ (m.dropTokens gone).tokens, v.replacedBy = some t.id →
        ((m.dropTokens gone).Outlived cutoff v ↔ m.Outlived cutoff v) := by
      intro v hv hlink
      have := hrank v (hkept.mp hv).1 t.id hlink
      exact ih (rank v.id) (by omega) v hv rfl
    rw [ho'.outlived_iff ht, ho.outlived_iff (hkept.mp ht).1]
    refine and_congr_right ?_
    intro _
    constructor
    · intro hbefore v hv hlink
      by_cases hvg : v ∈ gone
      · exact (mem_outlived.mp (hgone v hvg)).2
      · have hv' := hkept.mpr ⟨hv, hvg⟩
        exact (hlower v hv' hlink).mp (hbefore v hv' hlink)
    · intro hbefore v hv hlink
      exact (hlower v hv hlink).mpr (hbefore v (hkept.mp hv).1 hlink)

/-! ## Counting -/

theorem Orderly.tokens_nodup (ho : m.Orderly) : m.tokens.Nodup := List.Nodup.of_map _ ho.tokenIds

theorem Orderly.outlived_nodup (ho : m.Orderly) (cutoff : Instant) :
    (m.outlived cutoff).Nodup := ho.tokens_nodup.filter _

/-- Every outlived token that is deleted is one outlived token less. -/
theorem Ascending.length_outlived (ha : m.Ascending) (ho : m.Orderly)
    (hgone : ∀ d ∈ gone, d ∈ m.outlived cutoff) (hnodup : gone.Nodup) :
    (m.outlived cutoff).length = gone.length + ((m.dropTokens gone).outlived cutoff).length := by
  have hperm : (m.outlived cutoff).Perm (gone ++ (m.dropTokens gone).outlived cutoff) := by
    refine (List.perm_ext_iff_of_nodup (ho.outlived_nodup cutoff) ?_).mpr ?_
    · rw [List.nodup_append]
      refine ⟨hnodup, (ho.drop gone).outlived_nodup cutoff, ?_⟩
      rintro d hd t ht rfl
      exact ((ha.mem_outlived_dropTokens ho hgone).mp ht).2 hd
    · intro t
      rw [List.mem_append, ha.mem_outlived_dropTokens ho hgone]
      constructor
      · intro ht
        by_cases htg : t ∈ gone
        · exact .inl htg
        · exact .inr ⟨ht, htg⟩
      · rintro (htg | ⟨ht, -⟩)
        · exact hgone t htg
        · exact ht
  rw [hperm.length_eq, List.length_append]

theorem doomed_subset (m : Memory) (cutoff : Instant) (limit : Int) :
    ∀ d ∈ m.doomed cutoff limit, d ∈ m.purgeable cutoff :=
  fun _ hd => (List.mergeSort_perm _ _).subset (List.mem_of_mem_take hd)

theorem Orderly.doomed_nodup (ho : m.Orderly) (cutoff : Instant) (limit : Int) :
    (m.doomed cutoff limit).Nodup := by
  have hsorted := (List.mergeSort_perm (m.purgeable cutoff)
    fun a b => decide (a.expiresAt ≤ b.expiresAt)).nodup_iff.mpr (ho.tokens_nodup.filter _)
  exact hsorted.sublist (List.take_sublist ..)

theorem length_doomed (m : Memory) (cutoff : Instant) (limit : Nat) :
    (m.doomed cutoff limit).length = min limit (m.purgeable cutoff).length := by
  simp [doomed]

/-- A purge that is not cut short takes all that can be purged. -/
theorem mem_doomed_of_le {limit : Nat} (h : (m.purgeable cutoff).length ≤ limit) :
    t ∈ m.doomed cutoff limit ↔ t ∈ m.purgeable cutoff := by
  rw [doomed, List.take_of_length_le (by simpa using h)]
  exact (List.mergeSort_perm _ _).mem_iff

theorem Orderly.length_purgeable_le (ho : m.Orderly) (cutoff : Instant) :
    (m.purgeable cutoff).length ≤ (m.outlived cutoff).length := by
  refine (List.Nodup.subperm (ho.tokens_nodup.filter _) ?_).length_le
  intro t ht
  exact ho.mem_outlived_of_purgeable ht

/-! ## Chains of outlived tokens -/

/-- Outlived tokens of which each is linked to the next. -/
def OutlivedChain (m : Memory) (cutoff : Instant) (chain : List Token) : Prop :=
  (∀ t ∈ chain, t ∈ m.outlived cutoff) ∧ chain.IsChain fun t u => t.replacedBy = some u.id

/-- The longest chain of outlived tokens has the given length, and nothing leads to its first. -/
structure LongestChain (m : Memory) (cutoff : Instant) (n : Nat) : Prop where
  attained : ∃ chain, m.OutlivedChain cutoff chain ∧ chain.length = n ∧
    ∀ t ∈ chain.head?, m.isReferenced t.id = false
  bound : ∀ chain, m.OutlivedChain cutoff chain → chain.length ≤ n

theorem longestChain_zero (h : m.outlived cutoff = []) : m.LongestChain cutoff 0 where
  attained := ⟨[], ⟨by simp, .nil⟩, rfl, by simp⟩
  bound := by
    intro chain hc
    cases chain with
    | nil => simp
    | cons t chain =>
      have ht := hc.1 t (by simp)
      rw [h] at ht
      cases ht

/-- Every row of a chain but the first has one that is linked to it. -/
theorem exists_linked_of_mem_tail {chain : List Token} {u : Token}
    (h : (t :: chain).IsChain fun t u => t.replacedBy = some u.id) (hu : u ∈ chain) :
    ∃ v ∈ t :: chain, v.replacedBy = some u.id := by
  induction chain generalizing t with
  | nil => cases hu
  | cons v chain ih =>
    obtain ⟨hlink, hrest⟩ := List.isChain_cons_cons.mp h
    rcases List.mem_cons.mp hu with rfl | hu
    · exact ⟨t, by simp, hlink⟩
    · obtain ⟨w, hw, hwu⟩ := ih hrest hu
      exact ⟨w, List.mem_cons_of_mem _ hw, hwu⟩

/-- Taking the first rows of all chains makes the longest of them one shorter. -/
theorem LongestChain.of_purged (ha : m.Ascending) (ho : m.Orderly)
    (hall : ∀ t, t ∈ gone ↔ t ∈ m.purgeable cutoff) (hne : gone ≠ []) {n : Nat}
    (h : (m.dropTokens gone).LongestChain cutoff n) : m.LongestChain cutoff (n + 1) := by
  have hgone : ∀ d ∈ gone, d ∈ m.purgeable cutoff := fun d => (hall d).mp
  have hleft := fun {t} => ha.mem_outlived_dropTokens (t := t) ho
    fun d hd => ho.mem_outlived_of_purgeable (hgone d hd)
  constructor
  · obtain ⟨chain, ⟨hmem, hlinks⟩, hlength, hfirst⟩ := h.attained
    cases chain with
    | nil =>
      obtain ⟨d, hd⟩ := List.exists_mem_of_ne_nil gone hne
      have hfree := (mem_purgeable.mp (hgone d hd)).2.2
      have hout := ho.mem_outlived_of_purgeable (hgone d hd)
      refine ⟨[d], ⟨by simpa using hout, .singleton d⟩, ?_, ?_⟩
      · simpa using hlength.symm
      · simpa [isReferenced_eq_false] using hfree
    | cons t chain =>
      -- the first row is not among those taken, so one of these is linked to it
      obtain ⟨ht, htg⟩ := hleft.mp (hmem t (by simp))
      obtain ⟨htm, hout⟩ := mem_outlived.mp ht
      have hlinked : ¬ ∀ u ∈ m.tokens, u.replacedBy ≠ some t.id :=
        fun hfree => htg ((hall t).mpr (hout.purgeable htm hfree))
      simp only [not_forall, not_not] at hlinked
      obtain ⟨u, hu, hlink⟩ := hlinked
      have hug : u ∈ gone := by
        by_contra hnot
        have hkept := (ho.mem_dropTokens_iff fun d hd => (mem_purgeable.mp (hgone d hd)).1).mpr
          ⟨hu, hnot⟩
        exact isReferenced_eq_false.mp (hfirst t (by simp)) u hkept hlink
      refine ⟨u :: t :: chain, ⟨?_, ?_⟩, by simpa using hlength, ?_⟩
      · intro v hv
        rcases List.mem_cons.mp hv with rfl | hv
        · exact ho.mem_outlived_of_purgeable (hgone v hug)
        · exact (hleft.mp (hmem v hv)).1
      · exact List.isChain_cons_cons.mpr ⟨hlink, hlinks⟩
      · simpa [isReferenced_eq_false] using (mem_purgeable.mp (hgone u hug)).2.2
  · intro chain hchain
    cases chain with
    | nil => simp
    | cons t chain =>
      have hrest : (m.dropTokens gone).OutlivedChain cutoff chain := by
        refine ⟨?_, hchain.2.tail⟩
        intro u hu
        refine hleft.mpr ⟨hchain.1 u (List.mem_cons_of_mem _ hu), ?_⟩
        intro hug
        obtain ⟨v, hv, hlink⟩ := exists_linked_of_mem_tail hchain.2 hu
        exact (mem_purgeable.mp (hgone u hug)).2.2 v (mem_outlived.mp (hchain.1 v hv)).1 hlink
      have := h.bound chain hrest
      simp only [List.length_cons]
      omega

/-! ## Cleanup cycles -/

/-- What a cleanup cycle that may delete `budget` tokens comes to when it deletes `gone` in the
given number of purges. -/
structure Trims (m : Memory) (cutoff : Instant) (budget : Nat) (gone : List Token)
    (passes : Nat) : Prop where
  /-- No token is counted twice. -/
  nodup : gone.Nodup
  /-- Nothing but outlived tokens is deleted. -/
  outlived : ∀ d ∈ gone, d ∈ m.outlived cutoff
  /-- All of them are, or as many as may be. -/
  count : gone.length = min budget (m.outlived cutoff).length
  /-- No remaining row points to a deleted one. -/
  unlinked : ∀ t ∈ m.tokens, t ∉ gone → ∀ d ∈ gone, t.replacedBy ≠ some d.id
  /-- It takes a purge for each row of the longest chain. -/
  passes : (m.outlived cutoff).length ≤ budget → m.LongestChain cutoff passes

theorem Ascending.outlived_eq_nil (ha : m.Ascending) (ho : m.Orderly)
    (h : m.purgeable cutoff = []) : m.outlived cutoff = [] := by
  rw [List.eq_nil_iff_forall_not_mem]
  intro t ht
  obtain ⟨htm, hout⟩ := mem_outlived.mp ht
  obtain ⟨d, hd⟩ := ha.exists_purgeable ho htm hout
  rw [h] at hd
  cases hd

/-- A cycle ends when nothing can be purged, or nothing more may be. -/
theorem trims_nil (ha : m.Ascending) (ho : m.Orderly) {budget : Nat}
    (h : budget = 0 ∨ m.purgeable cutoff = []) : m.Trims cutoff budget [] 0 := by
  have hnil : (m.outlived cutoff).length ≤ budget → m.outlived cutoff = [] := by
    intro hle
    rcases h with rfl | h
    · exact List.eq_nil_of_length_eq_zero (by omega)
    · exact ha.outlived_eq_nil ho h
  refine ⟨.nil, by simp, ?_, by simp, fun hle => longestChain_zero (hnil hle)⟩
  rcases h with rfl | h
  · simp
  · simp [ha.outlived_eq_nil ho h]

/-- A purge and the cycle that goes on after it. -/
theorem Trims.after_purge (ha : m.Ascending) (ho : m.Orderly) {limit : Nat}
    (hne : m.doomed cutoff limit ≠ []) {passes : Nat}
    (h : (m.dropTokens (m.doomed cutoff limit)).Trims cutoff
      (limit - (m.doomed cutoff limit).length) gone passes) :
    m.Trims cutoff limit (m.doomed cutoff limit ++ gone) (passes + 1) := by
  have hdoomed := m.doomed_subset cutoff limit
  have hout : ∀ d ∈ m.doomed cutoff limit, d ∈ m.outlived cutoff :=
    fun d hd => ho.mem_outlived_of_purgeable (hdoomed d hd)
  have hleft := fun {t} => ha.mem_outlived_dropTokens (t := t) ho hout
  have hlength := ha.length_outlived ho hout (ho.doomed_nodup cutoff limit)
  have hlimit := m.length_doomed cutoff limit
  refine ⟨?_, ?_, ?_, ?_, ?_⟩
  · rw [List.nodup_append]
    refine ⟨ho.doomed_nodup cutoff limit, h.nodup, ?_⟩
    rintro d hd t ht rfl
    exact (hleft.mp (h.outlived d ht)).2 hd
  · intro d hd
    rcases List.mem_append.mp hd with hd | hd
    · exact hout d hd
    · exact (hleft.mp (h.outlived d hd)).1
  · have := h.count
    rw [List.length_append]
    omega
  · intro t ht hnot d hd
    rw [List.mem_append, not_or] at hnot
    rcases List.mem_append.mp hd with hd | hd
    · exact (mem_purgeable.mp (hdoomed d hd)).2.2 t ht
    · have hkept := (ho.mem_dropTokens_iff fun d hd => (mem_purgeable.mp (hdoomed d hd)).1).mpr
        ⟨ht, hnot.1⟩
      exact h.unlinked t hkept hnot.2 d hd
  · intro hle
    have hpurgeable := ho.length_purgeable_le cutoff
    exact .of_purged ha ho (fun t => mem_doomed_of_le (by omega)) hne (h.passes (by omega))

/-- Whoever has deleted as many tokens as there are outlived ones has deleted all of them. -/
theorem Trims.mem_iff {budget passes : Nat}
    (h : m.Trims cutoff budget gone passes) (hle : (m.outlived cutoff).length ≤ budget) :
    t ∈ gone ↔ t ∈ m.outlived cutoff := by
  have hcount := h.count
  have hperm := (List.Nodup.subperm h.nodup h.outlived).perm_of_length_le (by omega)
  exact hperm.mem_iff

end Memory

end SessionKeeper
