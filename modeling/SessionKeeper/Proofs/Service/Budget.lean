import SessionKeeper.Proofs.Instant
import SessionKeeper.Proofs.Service.Attempts

/-!
# The budget of a cleanup cycle

A cycle may delete as many tokens as the settings say, and what it is told by the store decides how
it goes on. Here the store is anything that refuses a purge or answers a count that is not above the
limit it was given. The replies to the purges of a cycle spend the budget (`Spends`), by induction
along the cycle: each reply that does not end it makes what is left of the budget smaller. All that
is to be known of the cycle can be read off the replies (`Budgeted`), above all that no number in it
leaves the machine words that it is counted in.
-/

namespace SessionKeeper

/-- Expired tokens are not kept for less than nothing. -/
theorem CleanupSettings.nonneg_of_retention {s : CleanupSettings} {retention : Span}
    (h : s.retention = .ok retention) : 0 ≤ retention.nanos := by
  unfold CleanupSettings.retention at h
  split at h
  · rename_i hhours
    cases h
    exact Int.mul_nonneg hhours.1 (by decide)
  · cases h

namespace Cleanup

open Service

/-! ## Replies to purges -/

/-- How many tokens a purge has deleted. -/
def removed : Except Error Nat → Nat
  | .ok n => n
  | .error _ => 0

@[simp] theorem removed_ok (n : Nat) : removed (.ok n) = n := rfl

@[simp] theorem removed_error (e : Error) : removed (.error e) = 0 := rfl

/-- How many tokens some purges have deleted together. -/
def total : List (Except Error Nat) → Nat
  | [] => 0
  | reply :: replies => removed reply + total replies

@[simp] theorem total_nil : total [] = 0 := rfl

@[simp] theorem total_cons (reply : Except Error Nat) (replies : List (Except Error Nat)) :
    total (reply :: replies) = removed reply + total replies := rfl

theorem total_append (before after : List (Except Error Nat)) :
    total (before ++ after) = total before + total after := by
  induction before with
  | nil => rw [List.nil_append, total_nil, Nat.zero_add]
  | cons reply before ih => rw [List.cons_append, total_cons, total_cons, ih, Nat.add_assoc]

/-- How many of some purges have deleted a token. -/
def productive (replies : List (Except Error Nat)) : Nat :=
  replies.countP fun reply => removed reply != 0

theorem productive_cons_ok {n : Nat} (h : 0 < n) (replies : List (Except Error Nat)) :
    productive (.ok n :: replies) = productive replies + 1 :=
  List.countP_cons_of_pos (by simpa using Nat.ne_of_gt h)

/-- A purge and its reply. -/
def purge (cutoff : Instant) (limit : Int) (reply : Except Error Nat) : Turn :=
  ⟨.inl (.purgeExpired cutoff limit), reply⟩

/-- Purges with one cutoff and their replies: each may delete what those before it have left of the
budget. -/
def purges (cutoff : Instant) (budget : Int) (replies : List (Except Error Nat)) : List Turn :=
  replies.mapIdx fun k reply => purge cutoff (budget - total (replies.take k)) reply

theorem purges_cons (cutoff : Instant) (budget : Int) (reply : Except Error Nat)
    (replies : List (Except Error Nat)) :
    purges cutoff budget (reply :: replies) =
      purge cutoff budget reply :: purges cutoff (budget - removed reply) replies := by
  simp only [purges, List.mapIdx_cons, List.take_zero, List.take_succ_cons, total_nil, total_cons,
    Int.natCast_zero, Int.sub_zero, Int.natCast_add, Int.sub_sub]

/-- With these replies a cycle that may delete `budget` tokens comes to its end: at the first
refusal, at the first purge that finds nothing, or when the budget is spent. -/
inductive Spends : Nat → List (Except Error Nat) → Prop where
  | spent : Spends 0 []
  | refused {budget : Nat} (h : 0 < budget) (e : Error) : Spends budget [.error e]
  | nothing {budget : Nat} (h : 0 < budget) : Spends budget [.ok 0]
  | goesOn {budget n : Nat} {replies : List (Except Error Nat)} (h : 0 < n) (hle : n ≤ budget)
      (hrest : Spends (budget - n) replies) : Spends budget (.ok n :: replies)

/-- How a cycle ends with some replies, if it has deleted `deleted` tokens in `passes` purges
before. -/
def outcome (cutoff : Instant) (deleted passes : Nat) (replies : List (Except Error Nat)) :
    Except Error CleanupReport :=
  match replies.getLast? with
  | some (.error e) => .error e
  | _ => .ok ⟨cutoff, deleted + total replies, passes + productive replies⟩

theorem outcome_cons (cutoff : Instant) (deleted passes : Nat) {n : Nat} (h : 0 < n)
    (replies : List (Except Error Nat)) :
    outcome cutoff deleted passes (.ok n :: replies) =
      outcome cutoff (deleted + n) (passes + 1) replies := by
  have htotal : deleted + total (.ok n :: replies) = deleted + n + total replies := by
    rw [total_cons, removed_ok, Nat.add_assoc]
  have hpasses : passes + productive (.ok n :: replies) = passes + 1 + productive replies := by
    rw [productive_cons_ok h, Nat.add_assoc, Nat.add_comm 1]
  unfold outcome
  rw [htotal, hpasses]
  cases replies <;> rfl

namespace Spends

variable {budget : Nat} {replies : List (Except Error Nat)}

theorem total_le (h : Spends budget replies) : total replies ≤ budget := by
  induction h with
  | spent => exact Nat.le_refl 0
  | refused | nothing => simp
  | goesOn h hle _ ih =>
    rw [total_cons, removed_ok]
    omega

/-- Every purge but the last deletes a token. -/
theorem length_le (h : Spends budget replies) : replies.length ≤ budget := by
  induction h with
  | spent => exact Nat.le_refl 0
  | refused h | nothing h => exact h
  | goesOn h hle _ ih =>
    rw [List.length_cons]
    omega

/-- No purge is asked for once the budget is spent. -/
theorem total_take_lt (h : Spends budget replies) {k : Nat} (hk : k < replies.length) :
    total (replies.take k) < budget := by
  induction h generalizing k with
  | spent => cases hk
  | refused h | nothing h =>
    obtain rfl : k = 0 := by simpa using hk
    exact h
  | goesOn h hle _ ih =>
    cases k with
    | zero => exact Nat.lt_of_lt_of_le h hle
    | succ k =>
      have := ih (Nat.lt_of_succ_lt_succ hk)
      rw [List.take_succ_cons, total_cons, removed_ok]
      omega

theorem goes_on (h : Spends budget replies) :
    ∀ reply ∈ replies.dropLast, ∃ n, reply = .ok n ∧ 0 < n := by
  induction h with
  | spent | refused | nothing => simp
  | @goesOn _ n replies h _ _ ih =>
    cases replies with
    | nil => simp
    | cons next replies =>
      rw [List.dropLast_cons_cons]
      intro reply hreply
      rcases List.mem_cons.mp hreply with rfl | hreply
      · exact ⟨n, rfl, h⟩
      · exact ih reply hreply

theorem ended (h : Spends budget replies) :
    (∃ e, replies.getLast? = some (.error e)) ∨ replies.getLast? = some (.ok 0) ∨
      total replies = budget := by
  induction h with
  | spent => exact .inr (.inr rfl)
  | refused _ e => exact .inl ⟨e, rfl⟩
  | nothing => exact .inr (.inl rfl)
  | @goesOn budget n replies _ hle _ ih =>
    have hspent : total replies = budget - n → total (.ok n :: replies) = budget := by
      intro htotal
      rw [total_cons, removed_ok, htotal]
      exact Nat.add_sub_cancel' hle
    cases replies with
    | nil =>
      rcases ih with ⟨e, he⟩ | he | htotal
      · cases he
      · cases he
      · exact .inr (.inr (hspent htotal))
    | cons next replies => exact ih.imp_right (Or.imp_right hspent)

end Spends

/-! ## What can be read off the replies -/

/-- The cycle keeps to its budget and ends with a result. -/
structure Budgeted (cutoff : Instant) (budget : Nat) (replies : List (Except Error Nat))
    (result : Except Error CleanupReport) : Prop where
  /-- There are at most as many purges as tokens may be deleted. -/
  calls : replies.length ≤ budget
  /-- Every purge may delete one token at least, and its limit is a signed word. -/
  limits : ∀ k < replies.length, 1 ≤ (budget : Int) - total (replies.take k) ∧
    (budget : Int) - total (replies.take k) ≤ Int64.maxValue.toInt
  /-- Only after a purge that has deleted a token there is another. -/
  goesOn : ∀ reply ∈ replies.dropLast, ∃ n, reply = .ok n ∧ 0 < n
  /-- The last one is refused or finds nothing, or the budget is spent. -/
  ended : (∃ e, replies.getLast? = some (.error e)) ∨ replies.getLast? = some (.ok 0) ∨
    total replies = budget
  /-- No more tokens are deleted than may be. -/
  within : total replies ≤ budget
  /-- A refusal is the result as it is. -/
  failed : ∀ e, replies.getLast? = some (.error e) → result = .error e
  /-- Otherwise the deleted tokens and the purges that have deleted one are reported. -/
  reported : (∀ e, replies.getLast? ≠ some (.error e)) →
    result = .ok ⟨cutoff, total replies, productive replies⟩
  /-- In unsigned words, what is left and what has been deleted come out the same. -/
  words : ∀ k, (hk : k < replies.length) →
    (UInt64.ofNat budget - UInt64.ofNat (total (replies.take k))).toNat =
        budget - total (replies.take k) ∧
      (UInt64.ofNat (total (replies.take k)) + UInt64.ofNat (removed replies[k])).toNat =
        total (replies.take (k + 1))

theorem total_take_le (replies : List (Except Error Nat)) (k : Nat) :
    total (replies.take k) ≤ total replies := by
  have hall := total_append (replies.take k) (replies.drop k)
  rw [List.take_append_drop] at hall
  omega

theorem total_take_succ {replies : List (Except Error Nat)} {k : Nat} (h : k < replies.length) :
    total (replies.take (k + 1)) = total (replies.take k) + removed replies[k] := by
  rw [List.take_succ_eq_append_getElem h, total_append, total_cons, total_nil, Nat.add_zero]

theorem Spends.budgeted {budget : Nat} {replies : List (Except Error Nat)}
    (h : Spends budget replies) (hword : (budget : Int) ≤ Int64.maxValue.toInt)
    (cutoff : Instant) : Budgeted cutoff budget replies (outcome cutoff 0 0 replies) := by
  have hmax : Int64.maxValue.toInt = 9223372036854775807 := rfl
  have hsize : UInt64.size = 18446744073709551616 := rfl
  refine ⟨h.length_le, ?_, h.goes_on, h.ended, h.total_le, ?_, ?_, ?_⟩
  · intro k hk
    have := h.total_take_lt hk
    omega
  · intro e he
    rw [outcome, he]
  · intro hok
    unfold outcome
    split
    · rename_i e he
      exact absurd he (hok e)
    · rw [Nat.zero_add, Nat.zero_add]
  · intro k hk
    have hbefore := h.total_take_lt hk
    have hafter := Nat.le_trans (total_take_le replies (k + 1)) h.total_le
    have hsum := total_take_succ hk
    have hbudget := UInt64.toNat_ofNat_of_lt' (n := budget) (by omega)
    have htotal := UInt64.toNat_ofNat_of_lt' (n := total (replies.take k)) (by omega)
    have hremoved := UInt64.toNat_ofNat_of_lt' (n := removed replies[k]) (by omega)
    constructor
    · rw [UInt64.toNat_sub_of_le, hbudget, htotal]
      rw [UInt64.le_iff_toNat_le, hbudget, htotal]
      omega
    · rw [UInt64.toNat_add, htotal, hremoved, ← hsum]
      exact Nat.mod_eq_of_lt (by omega)

/-! ## Cycles -/

section

variable {σ α : Type} {answer : (r : signature.Request) → StateM σ (signature.Answer r)}

/-- What a purge is answered, and what is there afterwards. -/
def purged (answer : (r : signature.Request) → StateM σ (signature.Answer r)) (cutoff : Instant)
    (limit : Int) (s : σ) : Except Error Nat × σ :=
  (answer (.inl (.purgeExpired cutoff limit))).run s

/-- The store refuses a purge, or it answers a count that is not above the limit. -/
def Bounded (answer : (r : signature.Request) → StateM σ (signature.Answer r)) : Prop :=
  ∀ cutoff limit s n, 1 ≤ limit → (purged answer cutoff limit s).1 = .ok n → (n : Int) ≤ limit

/-- After a purge it is gone on with its count, or there is an end with its error. -/
theorem purge_bind {cutoff : Instant} {limit : Int} {reply : Except Error Nat} {s s' : σ}
    (h : purged answer cutoff limit s = (reply, s')) (f : Nat → Action α) :
    let x : Action α := (store (.purgeExpired cutoff limit) : Action Nat) >>= f
    (∀ n, reply = .ok n → execute answer x s = execute answer (f n) s' ∧
      transcript answer x.run s =
        purge cutoff limit reply :: transcript answer (f n).run s') ∧
    ∀ e, reply = .error e → execute answer x s = (.error e, s') ∧
      transcript answer x.run s = [purge cutoff limit reply] := by
  intro x
  have hasked : transcript answer (store (.purgeExpired cutoff limit)).run s =
      [purge cutoff limit (purged answer cutoff limit s).1] := rfl
  have hends : execute answer (store (.purgeExpired cutoff limit)) s = (reply, s') := h
  rw [h] at hasked
  constructor
  · rintro n rfl
    refine ⟨execute_bind_ok hends f, (transcript_bind_ok hends f).trans ?_⟩
    rw [hasked]
    rfl
  · rintro e rfl
    exact ⟨execute_bind_error hends f, (transcript_bind_error hends f).trans hasked⟩

/-- The replies to the purges of a cycle spend what it may still delete. -/
theorem transcript_purgeAll (hstore : Bounded answer) (cutoff : Instant)
    (budget deleted passes : Nat) (s : σ) :
    ∃ replies, Spends (budget - deleted) replies ∧
      transcript answer (purgeAll cutoff budget deleted passes).run s =
        purges cutoff (budget - deleted : Nat) replies ∧
      (execute answer (purgeAll cutoff budget deleted passes) s).1 =
        outcome cutoff deleted passes replies := by
  induction deleted, passes using purgeAll.induct budget generalizing s with
  | case1 deleted passes hbelow ih =>
    obtain ⟨reply, s', hreply⟩ : ∃ reply s',
        purged answer cutoff (budget - deleted : Nat) s = (reply, s') := ⟨_, _, rfl⟩
    have hcount := hstore cutoff (budget - deleted : Nat) s
    rw [hreply] at hcount
    obtain ⟨hok, herror⟩ := purge_bind hreply fun removed =>
      if _nothing : removed = 0 then (return ⟨cutoff, deleted, passes⟩)
      else purgeAll cutoff budget (deleted + removed) (passes + 1)
    rw [purgeAll, dif_pos hbelow]
    cases reply with
    | error e =>
      obtain ⟨hends, hasked⟩ := herror e rfl
      refine ⟨[.error e], .refused (by omega) e, hasked, ?_⟩
      exact congrArg Prod.fst hends
    | ok n =>
      obtain ⟨hends, hasked⟩ := hok n rfl
      by_cases hnothing : n = 0
      · subst hnothing
        refine ⟨[.ok 0], .nothing (by omega), hasked, congrArg Prod.fst hends⟩
      · have hle := hcount n (by omega) rfl
        obtain ⟨replies, hspends, htranscript, hexecute⟩ := ih n hnothing s'
        rw [dif_neg hnothing] at hends hasked
        rw [← Nat.sub_sub] at hspends htranscript
        refine ⟨.ok n :: replies, .goesOn (by omega) (by omega) hspends, hasked.trans ?_,
          (congrArg Prod.fst hends).trans ?_⟩
        · have hleft : (((budget - deleted - n : Nat) : Int)) = (budget - deleted : Nat) - n := by
            omega
          rw [htranscript, purges_cons, removed_ok, hleft]
        · rw [hexecute, outcome_cons _ _ _ (by omega)]
  | case2 deleted passes hspent =>
    refine ⟨[], ?_, ?_, ?_⟩
    · rw [Nat.sub_eq_zero_of_le (by omega)]
      exact .spent
    · rw [purgeAll, dif_neg hspent]
      rfl
    · rw [purgeAll, dif_neg hspent]
      rfl

/-- A cycle that the settings allow reads the clock once and then looks for its cutoff. -/
theorem runOnce_reads_clock (answer : (r : signature.Request) → StateM σ (signature.Answer r))
    {s : CleanupSettings} {retention : Span} (hpositive : 1 ≤ s.batchSize)
    (hretention : s.retention = .ok retention) (w : σ) :
    let now : Instant := ((answer (.inr .now)).run w).1
    let rest : Action CleanupReport := liftExcept (Cleanup.cutoff retention now) >>= fun cutoff =>
      purgeAll cutoff s.batchSize.toNat 0 0
    transcript answer (runOnce s).run w =
        ⟨.inr .now, now⟩ :: transcript answer rest.run ((answer (.inr .now)).run w).2 ∧
      execute answer (runOnce s) w = execute answer rest ((answer (.inr .now)).run w).2 := by
  intro now rest
  have hbudget : s.budget = .ok s.batchSize := if_neg (by omega)
  have hnow : execute answer Service.now w = (.ok now, ((answer (.inr .now)).run w).2) := rfl
  have hasked : transcript answer Service.now.run w = [⟨.inr .now, now⟩] := rfl
  have hrun : runOnce s = Service.now >>= fun now =>
      liftExcept (Cleanup.cutoff retention now) >>= fun cutoff =>
        purgeAll cutoff s.batchSize.toNat 0 0 := by
    unfold runOnce
    rw [hbudget, hretention]
    rfl
  rw [hrun, execute_bind_ok hnow, transcript_bind_ok hnow, hasked]
  exact ⟨rfl, rfl⟩

/-- Against any store that refuses a purge or deletes no more than it is asked to, a cycle reads the
clock once and then purges with one cutoff, which is exactly as long ago as expired tokens are kept.
The limit of each purge is what the purges before it have left of the batch size. There is at least
one token left to delete and no word overflows, the cycle ends at the first refusal, at the first
purge that finds nothing or when the batch is full, and what it reports is the sum of what the
purges have deleted. -/
theorem cycle_keeps_budget (hstore : Bounded answer) {s : CleanupSettings} {retention : Span}
    (hpositive : 1 ≤ s.batchSize) (hword : s.batchSize ≤ Int64.maxValue.toInt)
    (hretention : s.retention = .ok retention) (w : σ) :
    let now : Instant := ((answer (.inr .now)).run w).1
    (∀ cutoff, now.sub? retention = some cutoff →
      cutoff.nanos = now.nanos - retention.nanos ∧ now.spanTo cutoff = -retention ∧
      ∃ replies, transcript answer (runOnce s).run w =
          ⟨.inr .now, now⟩ :: purges cutoff s.batchSize replies ∧
        Budgeted cutoff s.batchSize.toNat replies (execute answer (runOnce s) w).1) ∧
    (now.sub? retention = none → transcript answer (runOnce s).run w = [⟨.inr .now, now⟩] ∧
      (execute answer (runOnce s) w).1 = .error .retentionOutOfRange) := by
  intro now
  obtain ⟨hasked, hends⟩ := runOnce_reads_clock answer hpositive hretention w
  rw [hasked, hends]
  constructor
  · intro cutoff hsub
    have hcutoff : Cleanup.cutoff retention now = .ok cutoff := by
      rw [Cleanup.cutoff, hsub]
    obtain ⟨replies, hspends, htranscript, hexecute⟩ :=
      transcript_purgeAll hstore cutoff s.batchSize.toNat 0 0 ((answer (.inr .now)).run w).2
    have hsize : ((s.batchSize.toNat - 0 : Nat) : Int) = s.batchSize := by omega
    rw [hsize] at htranscript
    obtain ⟨rfl, -⟩ := Instant.add?_eq_some.mp hsub
    have hback : (-retention).nanos ≤ 0 :=
      Int.neg_nonpos_of_nonneg (CleanupSettings.nonneg_of_retention hretention)
    refine ⟨Instant.nanos_plus_of_nonpos hback, now.spanTo_plus _, replies, ?_, ?_⟩
    · rw [hcutoff]
      exact congrArg _ htranscript
    · rw [hcutoff, execute_liftExcept_bind]
      simp only
      rw [hexecute]
      exact hspends.budgeted (by omega) _
  · intro hsub
    have hcutoff : Cleanup.cutoff retention now = .error .retentionOutOfRange := by
      rw [Cleanup.cutoff, hsub]
    rw [hcutoff]
    exact ⟨rfl, rfl⟩

end

/-- The next of the prepared replies to purges, with a count that is not above the limit. -/
def prepared (limit : Int) : StateM (List (Except Error Nat)) (Except Error Nat) :=
  modifyGet fun
    | [] => (.ok 0, [])
    | reply :: replies => (reply.map fun n => min n limit.toNat, replies)

/-- A store whose purges have prepared replies, and that refuses everything else. -/
def scripted : (r : signature.Request) → StateM (List (Except Error Nat)) (signature.Answer r)
  | .inl (.purgeExpired _ limit) => prepared limit
  | .inl _ => pure (.error .unknownToken)
  | .inr .now => pure (⟨0, false⟩ : Instant)
  | .inr .freshId => pure (⟨0⟩ : Uuid)
  | .inr .freshOpaque => pure ""

theorem scripted_bounded : Bounded scripted := by
  intro cutoff limit s n hlimit hok
  cases s with
  | nil =>
    cases hok
    omega
  | cons reply replies =>
    cases reply with
    | error e => cases hok
    | ok count =>
      cases hok
      show ((min count limit.toNat : Nat) : Int) ≤ limit
      omega

/-- A batch of five is full after three purges, of which the last finds more than it may delete. -/
theorem cycle_keeps_budget_scripted :
    let s : CleanupSettings := { retentionHours := 0, batchSize := 5 }
    let script : List (Except Error Nat) := [.ok 2, .ok 1, .ok 8, .error .unknownToken]
    Bounded scripted ∧ (execute scripted (runOnce s) script).1.toOption = some ⟨⟨0, false⟩, 5, 3⟩ ∧
      ∃ replies, transcript scripted (runOnce s).run script =
          ⟨.inr .now, ⟨0, false⟩⟩ :: purges ⟨0, false⟩ 5 replies ∧
        Budgeted ⟨0, false⟩ 5 replies (execute scripted (runOnce s) script).1 := by
  intro s script
  refine ⟨scripted_bounded, by decide +kernel, ?_⟩
  have hretention : s.retention = .ok ⟨0⟩ := rfl
  exact ((cycle_keeps_budget scripted_bounded (by decide) (by decide) hretention script).1
    ⟨0, false⟩ rfl).2.2

end Cleanup

end SessionKeeper
