import SessionKeeper.Service.CleanupJob

/-!
# Following a cleanup cycle

A cycle is answered a few requests at a time, by anyone and with anything, errors included.
`Follows` says how far it comes with some answers, and `Leads` where it can have come with any. A
cycle ends: it asks for the instant once and purges the store at most as often as it may delete
tokens, because every purge but the last deletes one (`within_cycleOf`).
-/

namespace SessionKeeper.CleanupJob

open Service

/-! ## Following a cycle -/

/-- A request of a cycle, with its answer. -/
abbrev Asked := (r : signature.Request) × signature.Answer r

/-- An answer to the next request, whichever it is. -/
abbrev Answer := (r : signature.Request) → signature.Answer r

/-- The cycle asks these requests, and with these answers it has come as far as `rest`. -/
inductive Leads : Cycle → List Asked → Cycle → Prop where
  | here (c : Cycle) : Leads c [] c
  | ask {r : signature.Request} {k : signature.Answer r → Cycle} (a : signature.Answer r)
      {asked : List Asked} {rest : Cycle} (h : Leads (k a) asked rest) :
      Leads (.ask r k) (⟨r, a⟩ :: asked) rest

theorem Leads.trans {c d e : Cycle} {before after : List Asked} (h : Leads c before d)
    (h' : Leads d after e) : Leads c (before ++ after) e := by
  induction h with
  | here c => exact h'
  | ask a h ih => exact .ask a (ih h')

/-- Answer the requests of a cycle for as long as there are answers, and note what it asks. -/
def follow : List Answer → Cycle → StateM (List Asked) Cycle
  | answer :: answers, .ask r k => do
    modify (· ++ [⟨r, answer r⟩])
    follow answers (k (answer r))
  | [], rest => pure rest
  | _, .pure result => pure (.pure result)

/-- With these answers, one after the other, the cycle asks `asked` and comes as far as `rest`: to
its end, or to where there are no more answers. -/
inductive Follows : List Answer → Cycle → List Asked → Cycle → Prop where
  | waits (c : Cycle) : Follows [] c [] c
  | ended (answers : List Answer) (result : Except Error CleanupReport) :
      Follows answers (.pure result) [] (.pure result)
  | ask (answer : Answer) {answers : List Answer} {r : signature.Request}
      {k : signature.Answer r → Cycle} {asked : List Asked} {rest : Cycle}
      (h : Follows answers (k (answer r)) asked rest) :
      Follows (answer :: answers) (.ask r k) (⟨r, answer r⟩ :: asked) rest

theorem Follows.leads {answers : List Answer} {c rest : Cycle} {asked : List Asked}
    (h : Follows answers c asked rest) : Leads c asked rest := by
  induction h with
  | waits c => exact .here c
  | ended answers result => exact .here _
  | ask answer h ih => exact .ask _ ih

theorem Follows.length_or_ended {answers : List Answer} {c rest : Cycle} {asked : List Asked}
    (h : Follows answers c asked rest) :
    asked.length = answers.length ∨ ∃ result, rest = .pure result := by
  induction h with
  | waits c => exact .inl rfl
  | ended answers result => exact .inr ⟨result, rfl⟩
  | ask answer h ih =>
    rcases ih with hlength | hended
    · left
      rw [List.length_cons, List.length_cons, hlength]
    · exact .inr hended

theorem follow_follows (answers : List Answer) (c : Cycle) (before : List Asked) :
    ∃ asked rest, (follow answers c).run before = (rest, before ++ asked) ∧
      Follows answers c asked rest := by
  induction answers generalizing c before with
  | nil =>
    refine ⟨[], c, ?_, .waits c⟩
    rw [List.append_nil]
    cases c <;> rfl
  | cons answer answers ih =>
    cases c with
    | pure result =>
      refine ⟨[], .pure result, ?_, .ended _ result⟩
      rw [List.append_nil]
      rfl
    | ask r k =>
      obtain ⟨asked, rest, hrun, hfollows⟩ := ih (k (answer r)) (before ++ [⟨r, answer r⟩])
      refine ⟨⟨r, answer r⟩ :: asked, rest, ?_, .ask answer hfollows⟩
      rw [← List.append_cons] at hrun
      exact hrun

/-! ## How long a cycle takes -/

/-- The program ends after at most `n` answers, whatever they are. -/
def Within {α : Type} : Nat → Prog signature α → Prop
  | _, .pure _ => True
  | 0, .ask _ _ => False
  | n + 1, .ask _ k => ∀ a, Within n (k a)

section

variable {α β : Type} {m n : Nat}

@[simp] theorem within_pure (a : α) : Within n (.pure a : Prog signature α) := by
  cases n <;> trivial

theorem Within.mono {p : Prog signature α} (h : Within m p) (hmn : m ≤ n) : Within n p := by
  induction p generalizing m n with
  | pure a => exact within_pure a
  | ask r k ih =>
    cases m with
    | zero => exact h.elim
    | succ m =>
      obtain ⟨n, rfl⟩ : ∃ n', n = n' + 1 := ⟨n - 1, by omega⟩
      intro a
      exact ih a (h a) (by omega)

theorem within_bind {x : Action α} {f : α → Action β} (hx : Within m x.run)
    (hf : ∀ a, Within n (f a).run) : Within (m + n) (x >>= f).run := by
  rw [run_bind]
  generalize x.run = p at hx
  induction p generalizing m with
  | pure a =>
    cases a with
    | ok a => exact (hf a).mono (by omega)
    | error e => exact within_pure _
  | ask r k ih =>
    cases m with
    | zero => exact hx.elim
    | succ m =>
      rw [Nat.add_right_comm]
      intro a
      exact ih a (hx a)

theorem within_liftExcept_bind {x : Except Error α} {f : α → Action β}
    (hf : ∀ a, x = .ok a → Within n (f a).run) : Within n (liftExcept x >>= f).run := by
  cases x with
  | ok a => exact hf a rfl
  | error e => exact within_pure _

theorem within_store (r : Store.Request) : Within 1 (store r).run := fun _ => trivial

theorem within_now : Within 1 now.run := fun _ => trivial

end

/-- Every purge but the last deletes a token, so there are no more of them than tokens may be
deleted. -/
theorem within_purgeAll (cutoff : Instant) (budget deleted passes : Nat) :
    Within (budget - deleted) (Cleanup.purgeAll cutoff budget deleted passes).run := by
  fun_induction Cleanup.purgeAll cutoff budget deleted passes with
  | case1 deleted passes hbelow ih =>
    obtain ⟨left, hleft⟩ : ∃ left, budget - deleted = 1 + left := ⟨budget - deleted - 1, by omega⟩
    rw [hleft]
    refine within_bind (within_store _) fun removed => ?_
    split
    · exact within_pure _
    · exact (ih removed ‹_›).mono (by omega)
  | case2 => exact within_pure _

theorem batchSize_of_budget {s : CleanupSettings} {n : Int} (h : s.budget = .ok n) :
    s.batchSize = n := by
  unfold CleanupSettings.budget at h
  split at h
  · cases h
  · exact Except.ok.inj h

/-- A cycle asks for the instant once and purges the store at most as often as it may delete
tokens. -/
theorem within_cycleOf (s : CleanupSettings) : Within (s.batchSize.toNat + 1) (cycleOf s) := by
  refine within_liftExcept_bind fun budget hbudget => ?_
  rw [batchSize_of_budget hbudget, Nat.add_comm]
  refine within_bind within_now fun now => ?_
  exact within_liftExcept_bind fun retention _ => within_liftExcept_bind fun cutoff _ =>
    within_purgeAll cutoff budget.toNat 0 0

/-- What is left of a cycle takes the fewer answers the more it has been given. -/
theorem Within.leads {n : Nat} {c rest : Cycle} {asked : List Asked} (h : Within n c)
    (hleads : Leads c asked rest) : Within (n - asked.length) rest := by
  induction hleads generalizing n with
  | here c => exact h
  | ask a hleads ih =>
    cases n with
    | zero => exact h.elim
    | succ n =>
      rw [List.length_cons, Nat.add_sub_add_right]
      exact ih (h a)

/-- A cycle that is given as many answers as it can take comes to its end. -/
theorem Follows.ended_of_lt {s : CleanupSettings} {answers : List Answer} {c rest : Cycle}
    {before asked : List Asked} (h : Follows answers c asked rest)
    (hc : Leads (cycleOf s) before c) (hn : s.batchSize.toNat < answers.length) :
    ∃ result, rest = .pure result := by
  rcases h.length_or_ended with hlength | hended
  · have hrest := (within_cycleOf s).leads (hc.trans h.leads)
    have hspent : s.batchSize.toNat + 1 - (before ++ asked).length = 0 := by
      rw [List.length_append]
      omega
    rw [hspent] at hrest
    cases rest with
    | pure result => exact ⟨result, rfl⟩
    | ask r k => exact hrest.elim
  · exact hended

end SessionKeeper.CleanupJob
