import SessionKeeper.Proofs.Store.Trimming

/-!
# What one purge deletes

A purge looks for the rows that may be deleted, sorts them by the end of their time and takes as
many from the front as it is allowed to. So it takes the oldest of them (`doomed_oldest`), and a
limit that is zero or negative takes none. The rows go together with what their hashes led to, and
nothing else goes: each of these hashes led to its row before (`Reached.findable`), also where an
operation has entered one row over another.
-/

namespace SessionKeeper.Memory

variable {m : Memory} {cutoff : Instant} {limit : Int} {t : Token}

/-- The token may be deleted: it expired before the cutoff, it is not current, and it is the
replacement of no stored token. -/
def Eligible (m : Memory) (cutoff : Instant) (t : Token) : Prop :=
  t.expiresAt < cutoff ∧ t.isCurrent = false ∧ ∀ u ∈ m.tokens, u.replacedBy ≠ some t.id

instance (m : Memory) (cutoff : Instant) (t : Token) : Decidable (m.Eligible cutoff t) :=
  inferInstanceAs (Decidable (_ ∧ _ ∧ _))

/-- How many stored tokens may be deleted. -/
def eligibleCount (m : Memory) (cutoff : Instant) : Nat :=
  m.tokens.countP fun t => decide (m.Eligible cutoff t)

/-- What a purge of at most `limit` tokens comes to when it deletes `gone`. -/
structure Purges (m : Memory) (cutoff : Instant) (limit : Int) (gone : List Token)
    (m' : Memory) : Prop where
  /-- No token is counted twice. -/
  nodup : gone.Nodup
  /-- Only stored tokens that may be deleted are deleted. -/
  eligible : ∀ d ∈ gone, d ∈ m.tokens ∧ m.Eligible cutoff d
  /-- As many are deleted as there are, or as may be. -/
  count : (gone.length : Int) = min (max limit 0) (m.eligibleCount cutoff)
  /-- No eligible token that stays expires earlier than one that goes. -/
  oldest : ∀ d ∈ gone, ∀ t ∈ m.tokens, m.Eligible cutoff t → t ∉ gone → d.expiresAt ≤ t.expiresAt
  /-- Everything else stays as it is. -/
  without : m.Without gone m'
  /-- The hashes of the deleted tokens led to them. -/
  led : ∀ d ∈ gone, m.idOfHash? d.hash = some d.id
  /-- They lead nowhere now, and all other hashes lead where they have led. -/
  index : ∀ hash, m'.idOfHash? hash =
    if ∃ d ∈ gone, d.hash = hash then none else m.idOfHash? hash
  /-- No remaining row points to a deleted one. -/
  unlinked : ∀ t ∈ m'.tokens, ∀ d ∈ gone, t.replacedBy ≠ some d.id

/-! ## The choice of rows -/

theorem mem_purgeable_iff_eligible : t ∈ m.purgeable cutoff ↔ t ∈ m.tokens ∧ m.Eligible cutoff t := by
  rw [mem_purgeable, Token.Over, Eligible, and_assoc, and_left_comm (a := t.isCurrent = false)]

theorem length_purgeable (m : Memory) (cutoff : Instant) :
    (m.purgeable cutoff).length = m.eligibleCount cutoff := by
  rw [purgeable, eligibleCount, ← List.countP_eq_length_filter]
  refine List.countP_congr ?_
  intro t ht
  have h : t ∈ m.purgeable cutoff ↔ t ∈ m.tokens ∧ m.Eligible cutoff t :=
    mem_purgeable_iff_eligible
  rw [purgeable, List.mem_filter, and_congr_right_iff] at h
  rw [h ht, decide_eq_true_iff]

/-- The rows that are taken expired no later than those that are left. -/
theorem doomed_oldest {d : Token} (hd : d ∈ m.doomed cutoff limit) (ht : t ∈ m.purgeable cutoff)
    (hleft : t ∉ m.doomed cutoff limit) : d.expiresAt ≤ t.expiresAt := by
  rw [doomed] at hd hleft
  generalize hsorted :
    ((m.purgeable cutoff).mergeSort fun a b => decide (a.expiresAt ≤ b.expiresAt)) = sorted at *
  have hpairwise : sorted.Pairwise fun a b => a.expiresAt ≤ b.expiresAt := by
    rw [← hsorted]
    refine (List.pairwise_mergeSort ?_ ?_ _).imp (by simp)
    · intro a b c hab hbc
      simp only [decide_eq_true_eq, Instant.le_def] at *
      omega
    · intro a b
      simp only [Bool.or_eq_true, decide_eq_true_eq, Instant.le_def]
      omega
  have hmem : t ∈ sorted := by
    rw [← hsorted]
    exact (List.mergeSort_perm _ _).mem_iff.mpr ht
  rw [← List.take_append_drop limit.toNat sorted] at hpairwise hmem
  have hdropped := (List.mem_append.mp hmem).resolve_left hleft
  exact (List.pairwise_append.mp hpairwise).2.2 d hd t hdropped

theorem idOfHash?_dropTokens_self {gone : List Token} {d : Token} (h : d ∈ gone) :
    (m.dropTokens gone).idOfHash? d.hash = none := by
  rw [idOfHash?, List.lookup_eq_none_iff]
  rintro ⟨hash, id⟩ hentry
  simp only [dropTokens, List.mem_filter, Bool.not_eq_true', List.any_eq_false,
    beq_iff_eq] at hentry
  simpa using hentry.2 d h

/-! ## The purge as a whole -/

theorem Findable.purges (hf : m.Findable) (ho : m.Orderly) (cutoff : Instant) (limit : Int) :
    m.Purges cutoff limit (m.doomed cutoff limit) (m.dropTokens (m.doomed cutoff limit)) := by
  have heligible : ∀ d ∈ m.doomed cutoff limit, d ∈ m.tokens ∧ m.Eligible cutoff d :=
    fun d hd => mem_purgeable_iff_eligible.mp (m.doomed_subset cutoff limit d hd)
  have hstored : ∀ d ∈ m.doomed cutoff limit, d ∈ m.tokens := fun d hd => (heligible d hd).1
  refine ⟨ho.doomed_nodup cutoff limit, heligible, ?_, ?_, hf.without ho hstored,
    fun d hd => hf d (hstored d hd), ?_, ?_⟩
  · have hlength : (m.doomed cutoff limit).length = min limit.toNat (m.eligibleCount cutoff) := by
      rw [doomed, List.length_take, List.length_mergeSort, length_purgeable]
    omega
  · intro d hd t ht hel hleft
    exact doomed_oldest hd (mem_purgeable_iff_eligible.mpr ⟨ht, hel⟩) hleft
  · intro hash
    split
    · rename_i hgone
      obtain ⟨d, hd, rfl⟩ := hgone
      exact idOfHash?_dropTokens_self hd
    · rename_i hkept
      exact idOfHash?_dropTokens fun d hd he => hkept ⟨d, hd, he⟩
  · intro t ht d hd
    exact (heligible d hd).2.2.2 t (mem_dropTokens.mp ht).1

/-- In every store that operations reach, whatever its rows are and whether or not identifiers have
been repeated, a purge deletes the oldest of the rows that may be deleted: as many as there are, or
as the limit allows, and none if the limit is not positive. Their hashes go from the index with
them, no row that stays points to one of them, users, sessions and all other rows stay as they
are, and the answer is the number of deleted rows. -/
theorem purge_takes_oldest (os : List Operation) (cutoff : Instant) (limit : Int) :
    ∃ gone m', (empty.applyAll os).answer (.purgeExpired cutoff limit) = (.ok gone.length, m') ∧
      (empty.applyAll os).Purges cutoff limit gone m' := by
  have hreached : (empty.applyAll os).Reached := ⟨os, rfl⟩
  exact ⟨_, _, rfl, hreached.findable.purges hreached.orderly cutoff limit⟩

end SessionKeeper.Memory
