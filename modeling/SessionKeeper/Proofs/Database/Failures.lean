import SessionKeeper.Proofs.Database.Blame

/-!
# The first failure decides

Whatever is asked of a database, the first statement that fails decides: the error is of its kind
and speaks of its step, and nothing is sent after it but that the transaction is given up. If
nothing fails and all answers are as expected, then an error tells about a decision of the client
and never about the database. Both are read off the discipline to which every operation keeps, and
the ways in which a transaction can end.
-/

namespace SessionKeeper.Database

open Exchange

/-! ## Traces with failures, and without -/

/-- The failure in an answer. -/
def failureOf? {α : Type} : Except Failure α → Option Failure
  | .ok _ => none
  | .error f => some f

namespace Exchange

/-- The failure that a request is answered with. -/
def failure? : Exchange → Option Failure
  | ⟨.begin, a⟩ => failureOf? (α := Unit) a
  | ⟨.commit, a⟩ => failureOf? (α := Unit) a
  | ⟨.migrate _, a⟩ => failureOf? (α := Unit) a
  | ⟨.run _, a⟩ => failureOf? (α := Reply) a
  | ⟨.rollback, _⟩ | ⟨.migrationLog, _⟩ => none

@[simp] theorem failure?_begun (a : Except Failure Unit) : (begun a).failure? = failureOf? a := rfl

@[simp] theorem failure?_committed (a : Except Failure Unit) :
    (committed a).failure? = failureOf? a := rfl

@[simp] theorem failure?_rolledBack : rolledBack.failure? = none := rfl

@[simp] theorem failure?_ran (s : Statement) (a : Except Failure Reply) :
    (ran s a).failure? = failureOf? a := rfl

end Exchange

/-- Nothing fails. -/
def Calm (trace : Trace) : Prop := ∀ x ∈ trace, x.failure? = none

theorem Answered.calm (done : Answered) : Calm done.trace := by
  intro x hx
  obtain ⟨y, -, rfl⟩ := List.mem_map.mp hx
  rfl

theorem calm_begun (done : Answered) : Calm (begun (.ok ()) :: done.trace) := by
  intro x hx
  rcases List.mem_cons.mp hx with rfl | hx
  · rfl
  · exact done.calm x hx

theorem calm_transaction (done : Answered) {last : Exchange} (hlast : last.failure? = none) :
    Calm (begun (.ok ()) :: done.trace ++ [last]) := by
  intro x hx
  rcases List.mem_append.mp hx with hx | hx
  · exact calm_begun done x hx
  · rw [List.mem_singleton.mp hx]
    exact hlast

namespace Operation

/-- The step that an exchange is. -/
inductive Step (o : Operation) (before : Trace) : Exchange → String → Prop where
  | begin (a : Except Failure Unit) : Step o before (begun a) "Failed to begin transaction"
  | run (a : Except Failure Reply) {s : Statement} {q : Query} (h : s.text = q.entry.text) :
      Step o before (ran s a) q.entry.step
  | commit (a : Except Failure Unit) {step : String} (h : o.CommitStep before step) :
      Step o before (committed a) step

end Operation

theorem step_ran {o : Operation} {before : Trace} {s : Statement} {a : Except Failure Reply}
    {step : String} {q : Query} (hs : s.text = q.entry.text) (h : o.Step before (ran s a) step) :
    step = q.entry.step := by
  cases h with
  | run _ hs' => rw [Query.eq_of_text (hs.symm.trans hs')]

/-- The first failure decides what an operation ends with, and without a failure or an answer that
is not expected an error is deliberate. -/
structure Decided (o : Operation) (trace : Trace) (result : Except Error o.Result) : Prop where
  failed : ∀ before x after f, trace = before ++ x :: after → x.failure? = some f →
    Calm before ∧ (∀ y ∈ after, y = rolledBack) ∧
      ∃ step, o.Step before x step ∧ result = .error (o.report (f.toError step))
  deliberate : Calm trace → (∀ s reply, ran s (.ok reply) ∈ trace → Expected s reply) →
    ∀ e, result = .error e → Deliberate e

section

variable {o : Operation} {trace calm after : Trace} {result : Except Error o.Result} {x : Exchange}
  {f : Failure} {step : String}

/-- There is one place where something fails. -/
theorem eq_of_failure {before after' : Trace} {x' : Exchange} {f' : Failure} (hcalm : Calm calm)
    (hafter : ∀ y ∈ after, y = rolledBack) (hx' : x'.failure? = some f')
    (h : calm ++ x :: after = before ++ x' :: after') :
    before = calm ∧ x' = x ∧ after' = after := by
  induction calm generalizing before with
  | nil =>
    cases before with
    | nil =>
      obtain ⟨rfl, rfl⟩ := List.cons.inj h
      exact ⟨rfl, rfl, rfl⟩
    | cons y before =>
      -- what comes later has been given up, and that does not fail
      obtain ⟨-, hrest⟩ := List.cons.inj h
      have hmem : x' ∈ after := hrest ▸ by simp
      rw [hafter x' hmem] at hx'
      cases hx'
  | cons z calm ih =>
    cases before with
    | nil =>
      obtain ⟨rfl, -⟩ := List.cons.inj h
      rw [hcalm z (by simp)] at hx'
      cases hx'
    | cons y before =>
      obtain ⟨rfl, hrest⟩ := List.cons.inj h
      obtain ⟨rfl, rfl, rfl⟩ := ih (fun w hw => hcalm w (by simp [hw])) hrest
      exact ⟨rfl, rfl, rfl⟩

theorem decided_of_failure (htrace : trace = calm ++ x :: after) (hcalm : Calm calm)
    (hx : x.failure? = some f) (hafter : ∀ y ∈ after, y = rolledBack) (hstep : o.Step calm x step)
    (hresult : result = .error (o.report (f.toError step))) : Decided o trace result where
  failed before x' after' f' he hx' := by
    rw [htrace] at he
    obtain ⟨rfl, rfl, rfl⟩ := eq_of_failure hcalm hafter hx' he
    rw [hx] at hx'
    cases hx'
    exact ⟨hcalm, hafter, step, hstep, hresult⟩
  deliberate hall := by
    rw [hall x (by simp [htrace])] at hx
    cases hx

theorem decided_of_calm (hcalm : Calm trace)
    (h : (∀ s reply, ran s (.ok reply) ∈ trace → Expected s reply) →
      ∀ e, result = .error e → Deliberate e) : Decided o trace result where
  failed before x after f he hx := by
    rw [hcalm x (by simp [he])] at hx
    cases hx
  deliberate _ := h

theorem allExpected {done : Answered} (hsub : ∀ y ∈ done.trace, y ∈ trace)
    (h : ∀ s reply, ran s (.ok reply) ∈ trace → Expected s reply) : AllExpected done :=
  fun y hy => h y.1 y.2 (hsub _ (Answered.ran_mem_trace.mpr hy))

/-- Of an operation without a transaction. -/
theorem decided_of_course {ends : Answered → o.Result → Prop}
    (h : Course (.blaming o.report) ends [] trace result) : Decided o trace result := by
  cases h with
  | ended later h => exact decided_of_calm later.calm nofun
  | raised later h =>
    refine decided_of_calm later.calm fun hall e he => ?_
    cases he
    exact h (allExpected (fun _ hy => hy) hall)
  | failed later s f hs h =>
    obtain ⟨q, hq, rfl⟩ := h
    exact decided_of_failure rfl later.calm rfl nofun (.run _ hq) rfl

/-- Of an operation that takes a transaction. -/
theorem decided_of_transacted (ho : o.report = id) {body : Action (Verdict o.Result)}
    (hk : Keeps (.blaming id) (Concluding o) [] body.run) (h : Transacted body trace result) :
    Decided o trace result := by
  cases h with
  | unbegun f =>
    refine decided_of_failure (show _ = [] ++ begun (.error f) :: [] from rfl) nofun rfl nofun
      (.begin _) ?_
    rw [ho]
    rfl
  | abandoned ht =>
    cases hk.course ht with
    | raised later h =>
      refine decided_of_calm (calm_transaction later rfl) fun hall e he => ?_
      cases he
      refine h (allExpected (fun y hy => ?_) hall)
      have hmem : y ∈ later.trace := hy
      simp [hmem]
    | failed later s f hs h =>
      obtain ⟨q, hq, rfl⟩ := h
      refine decided_of_failure
        (show _ = (begun (.ok ()) :: later.trace) ++ ran s (.error f) :: [rolledBack] by simp)
        (calm_begun later) rfl (by simp) (.run _ hq) ?_
      rw [ho]
  | uncommitted f ht =>
    cases hk.course ht with
    | ended later h =>
      refine decided_of_failure
        (show _ = (begun (.ok ()) :: later.trace) ++ committed (.error f) :: [rolledBack] by simp)
        (calm_begun later) rfl (by simp) (.commit _ h.1) ?_
      rw [ho]
      rfl
  | concluded ht =>
    cases hk.course ht with
    | ended later h => exact decided_of_calm (calm_transaction later rfl) fun _ => h.2

theorem decided (h : Traced o.action.run trace result) : Decided o trace result := by
  have htransaction : ∀ {body : Action (Verdict o.Result)}, o.action = transaction body →
      Keeps (.blaming id) (Concluding o) [] body.run → o.report = id → Decided o trace result := by
    intro body hbody hk ho
    rw [hbody] at h
    exact decided_of_transacted ho hk (traced_transaction h)
  cases ho : o.commits with
  | false => exact decided_of_course ((keeps_action ho).course h)
  | true =>
    cases o with
    | auth r =>
      cases r with
      | issueToken t policy now =>
        obtain ⟨body, hbody, hk⟩ := concluding_issue t policy now
        exact htransaction hbody hk rfl
      | bindThumbprint session thumbprint =>
        obtain ⟨body, hbody, hk⟩ := concluding_bindThumbprint session thumbprint
        exact htransaction hbody hk rfl
      | rotateToken presented fresh hash now lifetime =>
        obtain ⟨body, hbody, hk⟩ := concluding_rotate presented fresh hash now lifetime
        exact htransaction hbody hk rfl
      | _ => cases ho
    | _ => cases ho

end

theorem Operation.report_kind (o : Operation) (e : Error) : (o.report e).kind = e.kind := by
  unfold Operation.report
  split
  · exact orMissingUser_kind _ e
  · rfl

/-- An error speaks of its step, unless a session lacks its user. -/
theorem Operation.report_message (o : Operation) (f : Failure) (step : String) :
    step.toList <+: (o.report (f.toError step)).message.toList ∨
      ∃ s, o = .auth (.createSession s) ∧ f.kind = .notFound ∧
        o.report (f.toError step) = .userNotFound s.user := by
  have hstep : step.toList <+: (f.toError step).message.toList := by
    change step.toList <+: (step ++ ": " ++ f.text).toList
    rw [String.toList_append, String.toList_append, List.append_assoc]
    exact List.prefix_append ..
  unfold Operation.report
  split
  · rename_i s
    by_cases hkind : f.kind = .notFound
    · exact .inr ⟨s, rfl, hkind, if_pos hkind⟩
    · left
      rw [show Sessions.orMissingUser s.user (f.toError step) = f.toError step from if_neg hkind]
      exact hstep
  · exact .inl hstep

/-- Whatever a database answers, the first statement that fails decides what an operation ends with,
the beginning and the commit of a transaction included. If none fails and all are answered as
expected, then an error does not tell about the database. -/
theorem first_failure_decides (o : Operation) {trace : Trace} {result : Except Error o.Result}
    (h : Traced o.action.run trace result) :
    (∀ before x after f, trace = before ++ x :: after → x.failure? = some f →
      (∀ y ∈ before, y.failure? = none) ∧ (∀ y ∈ after, y = rolledBack) ∧
        ∃ step e, o.Step before x step ∧ result = .error e ∧ e.kind = f.kind ∧
          (step.toList <+: e.message.toList ∨ ∃ s, o = .auth (.createSession s) ∧
            f.kind = .notFound ∧ e = .userNotFound s.user)) ∧
    ((∀ x ∈ trace, x.failure? = none) →
      (∀ s reply, ran s (.ok reply) ∈ trace → Expected s reply) →
      ∀ e, result = .error e →
        e.kind ≠ .database ∧ e.kind ≠ .conflict ∧ e.kind ≠ .constraintViolation) := by
  have hd := decided h
  refine ⟨fun before x after f he hx => ?_, hd.deliberate⟩
  obtain ⟨hcalm, hafter, step, hstep, hresult⟩ := hd.failed before x after f he hx
  refine ⟨hcalm, hafter, step, _, hstep, hresult, o.report_kind _, o.report_message f step⟩

/-- A hash that is stored already is refused by the database, a revoked session by the client. -/
theorem first_failure_decides_issue :
    let t : Token := ⟨⟨4⟩, ⟨1⟩, [8], ⟨1000, false⟩, ⟨9000, false⟩, none, none, none⟩
    let row (revoked : Value) : Row := [("id", .uuid ⟨1⟩), ("user_id", .uuid ⟨2⟩),
      ("dpop_jkt", .null), ("created_at", .instant ⟨0, false⟩), ("last_used_at", .null),
      ("revoked_at", revoked)]
    let reply : Reply := ⟨[row (.instant ⟨500, false⟩)], 1⟩
    let f : Failure := .refused (some "23505") (some "refresh_tokens_token_hash_key") "duplicate"
    (∃ e, Traced (Tokens.issue t .reject ⟨1000, false⟩).run
        [begun (.ok ()), ran (.lockSession ⟨1⟩) (.ok ⟨[row .null], 1⟩),
          ran (.lockCurrent ⟨1⟩) (.ok ⟨[], 0⟩), ran (.insertToken t) (.error f), rolledBack]
        (.error e) ∧
      e.kind = .constraintViolation ∧
      "Failed to insert refresh token".toList <+: e.message.toList) ∧
    ∃ e, Traced (Tokens.issue t .reject ⟨1000, false⟩).run
        [begun (.ok ()), ran (.lockSession ⟨1⟩) (.ok reply), rolledBack] (.error e) ∧
      e.kind ≠ .database ∧ e.kind ≠ .conflict ∧ e.kind ≠ .constraintViolation := by
  intro t row reply f
  let o : Operation := .auth (.issueToken t .reject ⟨1000, false⟩)
  have hfailed : Traced o.action.run _ _ :=
    traced_exchange (inTurn [.ok ⟨[row .null], 1⟩, .ok ⟨[], 0⟩, .error f]) [] _
  have hrevoked : Traced o.action.run _ _ :=
    traced_exchange (inTurn [.ok reply]) [] _
  constructor
  · obtain ⟨-, -, step, e, hstep, he, hkind, hmessage⟩ := (first_failure_decides o hfailed).1
      [begun (.ok ()), ran (.lockSession ⟨1⟩) (.ok ⟨[row .null], 1⟩),
        ran (.lockCurrent ⟨1⟩) (.ok ⟨[], 0⟩)]
      (ran (.insertToken t) (.error f)) [rolledBack] f rfl rfl
    rw [he] at hfailed
    refine ⟨e, hfailed, hkind, ?_⟩
    rcases hmessage with hmessage | ⟨s, ho, -⟩
    · rw [step_ran (q := .insertToken) rfl hstep] at hmessage
      exact hmessage
    · change Operation.auth (.issueToken _ _ _) = .auth (.createSession s) at ho
      simp at ho
  · have hended : Traced o.action.run
        [begun (.ok ()), ran (.lockSession ⟨1⟩) (.ok reply), rolledBack]
        (.error (.sessionRevoked ⟨1⟩)) := hrevoked
    have hfits : (Shape.columns Schema.sessions).Fits (row (.instant ⟨500, false⟩)) := by
      simp only [Shape.Fits, Schema.sessions, List.forall_mem_cons]
      exact ⟨⟨_, rfl, .inl trivial⟩, ⟨_, rfl, .inl trivial⟩, ⟨_, rfl, .inr ⟨rfl, by decide⟩⟩,
        ⟨_, rfl, .inl trivial⟩, ⟨_, rfl, .inr ⟨rfl, by decide⟩⟩, ⟨_, rfl, .inl trivial⟩,
        fun c hc => absurd hc List.not_mem_nil⟩
    refine ⟨_, hended, (first_failure_decides o hended).2 ?_ ?_ _ rfl⟩
    · intro x hx
      simp only [List.mem_cons, List.not_mem_nil, or_false] at hx
      rcases hx with rfl | rfl | rfl <;> rfl
    · intro s reply' hmem
      simp only [List.mem_cons, List.not_mem_nil, or_false, ran_inj, ran_ne_begun,
        ran_ne_rolledBack, false_or] at hmem
      obtain ⟨rfl, hreply⟩ := hmem
      cases hreply
      refine expected_of_text (q := .lockSession) rfl (fun r hr => ?_) fun _ => List.cons_ne_nil _ _
      obtain rfl := List.mem_singleton.mp hr
      exact hfits

end SessionKeeper.Database
