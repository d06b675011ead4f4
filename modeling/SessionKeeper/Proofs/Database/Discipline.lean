import SessionKeeper.Proofs.Database.Statements
import SessionKeeper.Proofs.Database.Trace

/-!
# What a client keeps to

A client runs statements one after the other, and the first that fails ends what it does. A
discipline says what it may send after what it has been answered, what it makes of a statement that
fails, and with which other errors it may end. A program keeps to a discipline (`Keeps`) if it does
so whatever it is answered, and there is a law for each way of running a statement. Both what is
sent (`Keeps.sent`) and how it ends (`Keeps.course`) can then be read off a trace.

A body is `Steady` if nothing is asked of what it sends and every failure is the error of a step.
-/

namespace SessionKeeper.Database

open Exchange

variable {α β : Type}

/-- Statements that have been run, with their replies. -/
abbrev Answered := List (Statement × Reply)

/-- The trace of statements that have been run. -/
def Answered.trace (done : Answered) : Trace := done.map fun x => ran x.1 (.ok x.2)

@[simp] theorem Answered.trace_nil : Answered.trace [] = [] := rfl

@[simp] theorem Answered.trace_append (done later : Answered) :
    Answered.trace (done ++ later) = done.trace ++ later.trace := List.map_append

@[simp] theorem Answered.trace_cons (s : Statement) (reply : Reply) (done : Answered) :
    Answered.trace ((s, reply) :: done) = ran s (.ok reply) :: done.trace := rfl

@[simp] theorem Answered.ran_mem_trace {done : Answered} {s : Statement} {reply : Reply} :
    ran s (.ok reply) ∈ done.trace ↔ (s, reply) ∈ done := by
  constructor
  · intro h
    obtain ⟨⟨s', reply'⟩, hmem, he⟩ := List.mem_map.mp h
    obtain ⟨rfl, hreply⟩ := ran_inj.mp he
    cases hreply
    exact hmem
  · intro h
    exact List.mem_map.mpr ⟨_, h, rfl⟩

/-! ## Disciplines -/

/-- What a program may do with a database, after the statements that have been answered. -/
structure Discipline where
  /-- A statement may be sent after others have been answered. -/
  sends : Answered → Statement → Prop
  /-- A statement that fails after others have been answered ends the program with an error. -/
  fails : Answered → Statement → Failure → Error → Prop
  /-- A program may end with an error although no statement fails. -/
  raises : Answered → Error → Prop

/-- A program runs statements only, keeps to a discipline, and when it ends with a result then
`ends` holds of the statements that have been answered and the result. -/
def Keeps (d : Discipline) (ends : Answered → α → Prop) :
    Answered → Prog signature (Except Error α) → Prop
  | done, .pure (.ok a) => ends done a
  | done, .pure (.error e) => d.raises done e
  | done, .ask (.run s) k =>
    d.sends done s ∧
      (∀ f : Failure, ∃ e, k (Except.error f) = .pure (.error e) ∧ d.fails done s f e) ∧
      ∀ reply : Reply, Keeps d ends (done ++ [(s, reply)]) (k (Except.ok reply))
  | _, .ask _ _ => False

/-- What running a program that keeps to a discipline comes to: every statement was answered, or all
but the last. -/
inductive Course (d : Discipline) (ends : Answered → α → Prop) (done : Answered) :
    Trace → Except Error α → Prop where
  | ended (later : Answered) {a} (h : ends (done ++ later) a) :
      Course d ends done later.trace (.ok a)
  | raised (later : Answered) {e} (h : d.raises (done ++ later) e) :
      Course d ends done later.trace (.error e)
  | failed (later : Answered) (s : Statement) (f : Failure) {e} (hs : d.sends (done ++ later) s)
      (h : d.fails (done ++ later) s f e) :
      Course d ends done (later.trace ++ [ran s (.error f)]) (.error e)

section

variable {d : Discipline} {ends : Answered → α → Prop} {endsβ : Answered → β → Prop}
  {done : Answered} {p : Prog signature (Except Error α)} {trace : Trace}
  {result : Except Error α}

theorem Keeps.course (h : Keeps d ends done p) (ht : Traced p trace result) :
    Course d ends done trace result := by
  -- along the program: what has been answered grows by one statement at a time
  induction p generalizing done trace with
  | pure x =>
    obtain ⟨rfl, rfl⟩ := traced_pure ht
    cases result with
    | ok a => exact .ended [] ((List.append_nil done).symm ▸ h)
    | error e => exact .raised [] ((List.append_nil done).symm ▸ h)
  | ask r k ih =>
    obtain ⟨a, rest, rfl, hk⟩ := traced_ask ht
    cases r with
    | run s =>
      obtain ⟨hs, hfail, hgo⟩ := h
      cases a with
      | error f =>
        obtain ⟨e, he, hfails⟩ := hfail f
        rw [he] at hk
        obtain ⟨rfl, rfl⟩ := traced_pure hk
        rw [← List.append_nil done] at hs hfails
        exact .failed [] s f hs hfails
      | ok reply =>
        cases ih _ (hgo reply) hk with
        | ended later h => exact .ended ((s, reply) :: later) (by simpa using h)
        | raised later h => exact .raised ((s, reply) :: later) (by simpa using h)
        | failed later s' f hs' h =>
          exact .failed ((s, reply) :: later) s' f (by simpa using hs') (by simpa using h)
    | _ => cases h

/-- What is sent may be sent after what has been answered before. -/
theorem Keeps.sent (h : Keeps d ends done p) (ht : Traced p trace result) {before after : Trace}
    {s : Statement} {a : Except Failure Reply} (hsplit : trace = before ++ ran s a :: after) :
    ∃ later : Answered, before = later.trace ∧ d.sends (done ++ later) s := by
  induction p generalizing done trace before with
  | pure x =>
    obtain ⟨rfl, -⟩ := traced_pure ht
    simp at hsplit
  | ask r k ih =>
    obtain ⟨b, rest, rfl, hk⟩ := traced_ask ht
    cases r with
    | run s' =>
      obtain ⟨hs, hfail, hgo⟩ := h
      cases before with
      | nil =>
        cases hsplit
        exact ⟨[], rfl, (List.append_nil done).symm ▸ hs⟩
      | cons x before =>
        rw [List.cons_append, List.cons.injEq] at hsplit
        obtain ⟨rfl, hrest⟩ := hsplit
        cases b with
        | error f =>
          -- after a statement that fails nothing is sent
          obtain ⟨e, he, -⟩ := hfail f
          rw [he] at hk
          obtain ⟨rfl, -⟩ := traced_pure hk
          simp at hrest
        | ok reply =>
          obtain ⟨later, rfl, hsends⟩ := ih _ (hgo reply) hk hrest
          exact ⟨(s', reply) :: later, rfl, by simpa using hsends⟩
    | _ => cases h

theorem Keeps.mono {ends' : Answered → α → Prop} (h : Keeps d ends done p)
    (hends : ∀ done a, ends done a → ends' done a) : Keeps d ends' done p := by
  induction p generalizing done with
  | pure x =>
    cases x with
    | ok a => exact hends done a h
    | error e => exact h
  | ask r k ih =>
    cases r with
    | run s => exact ⟨h.1, h.2.1, fun reply => ih _ (h.2.2 reply)⟩
    | _ => cases h

/-! ### Laws -/

theorem keeps_pure {b : β} (h : endsβ done b) : Keeps d endsβ done (pure b : Action β).run := h

theorem keeps_throw {e : Error} (h : d.raises done e) :
    Keeps d endsβ done (throw e : Action β).run := h

theorem keeps_progBind {f : α → Action β} (hp : Keeps d ends done p)
    (hf : ∀ done a, ends done a → Keeps d endsβ done (f a).run) :
    Keeps d endsβ done (p.bind fun
      | .ok a => (f a).run
      | .error e => .pure (.error e)) := by
  induction p generalizing done with
  | pure x =>
    cases x with
    | ok a => exact hf done a hp
    | error e => exact hp
  | ask r k ih =>
    cases r with
    | run s =>
      -- a failed statement ends the first part, so the second is not reached
      refine ⟨hp.1, fun f => ?_, fun reply => ih _ (hp.2.2 reply)⟩
      obtain ⟨e, he, hfails⟩ := hp.2.1 f
      refine ⟨e, ?_, hfails⟩
      simp only [he]
      rfl
    | _ => cases hp

theorem keeps_bind {x : Action α} {f : α → Action β} (hx : Keeps d ends done x.run)
    (hf : ∀ done a, ends done a → Keeps d endsβ done (f a).run) :
    Keeps d endsβ done (x >>= f).run := by
  rw [action_bind]
  exact keeps_progBind hx hf

/-- Going on unless a condition holds. -/
theorem keeps_unless {c : Prop} [Decidable c] {e : Error} {f : Unit → Action β}
    (he : d.raises done e) (h : ¬c → Keeps d endsβ done (f ()).run) :
    Keeps d endsβ done (if c then throw e >>= f else f () : Action β).run := by
  split
  · exact he
  · exact h ‹_›

theorem keeps_liftExcept_bind {x : Except Error α} {f : α → Action β}
    (herror : ∀ e, x = .error e → d.raises done e)
    (hok : ∀ a, x = .ok a → Keeps d endsβ done (f a).run) :
    Keeps d endsβ done (liftExcept x >>= f).run := by
  cases x with
  | ok a => exact hok a rfl
  | error e => exact herror e rfl

end

theorem orFail_eq_ok {step : String} {x : Except Failure α} {a : α} :
    orFail step x = .ok a ↔ x = .ok a := by
  cases x <;> simp [orFail]

theorem orFail_eq_error {step : String} {x : Except Failure α} {e : Error} :
    orFail step x = .error e ↔ ∃ f : Failure, x = .error f ∧ e = f.toError step := by
  cases x with
  | ok a => simp [orFail]
  | error f => simp [orFail, eq_comm]

/-! ### Running statements -/

namespace Discipline

/-- A statement may be sent, and if it fails then its step may be blamed for it. -/
structure Allows (d : Discipline) (done : Answered) (step : String) (s : Statement) : Prop where
  sends : d.sends done s
  fails : ∀ f, d.fails done s f (f.toError step)

/-- A statement may be answered with a first row that cannot be read. -/
def Reads (d : Discipline) (done : Answered) (step : String) (s : Statement) (reader : Reader α) :
    Prop :=
  ∀ (reply : Reply) (row : Row) (rows : List Row) (f : Failure), reply.rows = row :: rows →
    reader row = .error f → d.raises (done ++ [(s, reply)]) (f.toError step)

/-- A statement may be answered without rows, and then the program may end with an error. -/
def Misses (d : Discipline) (done : Answered) (s : Statement) (e : Error) : Prop :=
  ∀ reply : Reply, reply.rows = [] → d.raises (done ++ [(s, reply)]) e

end Discipline

/-- A statement has been answered, and its first row has been read, if there is one. -/
def FirstRow (s : Statement) (reader : Reader α) (done done' : Answered) : Option α → Prop
  | none => ∃ reply : Reply, done' = done ++ [(s, reply)] ∧ reply.rows = []
  | some a => ∃ (reply : Reply) (row : Row) (rows : List Row), done' = done ++ [(s, reply)] ∧
      reply.rows = row :: rows ∧ reader row = .ok a

theorem FirstRow.eq_append {s : Statement} {reader : Reader α} {done done' : Answered}
    {x : Option α}
    (h : FirstRow s reader done done' x) :
    ∃ reply, done' = done ++ [(s, reply)] := by
  cases x with
  | none =>
    obtain ⟨reply, rfl, -⟩ := h
    exact ⟨reply, rfl⟩
  | some a =>
    obtain ⟨reply, -, -, rfl, -⟩ := h
    exact ⟨reply, rfl⟩

section

variable {d : Discipline} {done : Answered} {step : String} {s : Statement} {reader : Reader α}

theorem keeps_run (h : d.Allows done step s) :
    Keeps d (fun done' reply => done' = done ++ [(s, reply)]) done (run step s).run :=
  ⟨h.sends, fun f => ⟨_, rfl, h.fails f⟩, fun _ => rfl⟩

theorem keeps_execute (h : d.Allows done step s) :
    Keeps d (fun done' n => ∃ reply : Reply, done' = done ++ [(s, reply)] ∧ n = reply.affected)
      done (execute step s).run :=
  keeps_bind (keeps_run h) fun _ reply hdone => ⟨reply, hdone, rfl⟩

theorem keeps_fetchAll (h : d.Allows done step s)
    (hread : ∀ (reply : Reply) (f : Failure), reply.rows.mapM reader = .error f →
      d.raises (done ++ [(s, reply)]) (f.toError step)) :
    Keeps d (fun done' _ => ∃ reply : Reply, done' = done ++ [(s, reply)]) done
      (fetchAll step reader s).run := by
  refine keeps_bind (keeps_run h) fun done' reply hdone => ?_
  cases hrows : reply.rows.mapM reader with
  | ok as => exact ⟨reply, hdone⟩
  | error f => exact hdone ▸ hread reply f hrows

theorem keeps_fetchOptional (h : d.Allows done step s) (hread : d.Reads done step s reader) :
    Keeps d (FirstRow s reader done) done (fetchOptional step reader s).run := by
  refine keeps_bind (keeps_run h) fun done' reply hdone => ?_
  cases hrows : reply.rows with
  | nil => exact ⟨reply, hdone, hrows⟩
  | cons row rows =>
    refine keeps_liftExcept_bind (fun e he => ?_) fun a ha => ?_
    · obtain ⟨f, hf, rfl⟩ := orFail_eq_error.mp he
      exact hdone ▸ hread reply row rows f hrows hf
    · exact ⟨reply, row, rows, hdone, hrows, orFail_eq_ok.mp ha⟩

theorem keeps_fetchOne (h : d.Allows done step s) (hread : d.Reads done step s reader)
    (hnone : d.Misses done s (Failure.rowNotFound.toError step)) :
    Keeps d (fun done' a => FirstRow s reader done done' (some a)) done
      (fetchOne step reader s).run := by
  refine keeps_bind (keeps_run h) fun done' reply hdone => ?_
  cases hrows : reply.rows with
  | nil => exact hdone ▸ hnone reply hrows
  | cons row rows =>
    cases hf : reader row with
    | ok a =>
      simp only [hf]
      exact ⟨reply, row, rows, hdone, hrows, hf⟩
    | error f =>
      simp only [hf]
      exact hdone ▸ hread reply row rows f hrows hf

end

/-! ### Rows that have to be there -/

section

variable {d : Discipline} {done : Answered}

theorem keeps_required {step : String} {s : Statement} {reader : Reader α} {e : Error}
    {go : Option α → Action α} (hgone : go none = throw e) (hgo : ∀ a, go (some a) = pure a)
    (h : d.Allows done step s) (hread : d.Reads done step s reader) (hnone : d.Misses done s e) :
    Keeps d (fun done' a => FirstRow s reader done done' (some a)) done
      (fetchOptional step reader s >>= go).run := by
  refine keeps_bind (keeps_fetchOptional h hread) fun done' a hrow => ?_
  cases a with
  | none =>
    obtain ⟨reply, rfl, hrows⟩ := hrow
    rw [hgone]
    exact keeps_throw (hnone reply hrows)
  | some a =>
    rw [hgo]
    exact keeps_pure hrow

theorem keeps_lockSession {id : Uuid}
    (h : d.Allows done "Failed to lock session" (.lockSession id))
    (hread : d.Reads done "Failed to lock session" (.lockSession id) Sessions.read)
    (hnone : d.Misses done (.lockSession id) (.sessionNotFound id)) :
    Keeps d (fun done' s => FirstRow (.lockSession id) Sessions.read done done' (some s)) done
      (Sessions.lock id).run :=
  keeps_required rfl (fun _ => rfl) h hread hnone

theorem keeps_sessionOf {hash : Hash}
    (h : d.Allows done "Failed to find refresh token" (.sessionOf hash))
    (hread : d.Reads done "Failed to find refresh token" (.sessionOf hash)
      (Row.readFirst Value.toUuid?))
    (hnone : d.Misses done (.sessionOf hash) .unknownToken) :
    Keeps d (fun done' a => FirstRow (.sessionOf hash) (Row.readFirst Value.toUuid?) done done'
      (some a)) done (Tokens.sessionOf hash).run :=
  keeps_required rfl (fun _ => rfl) h hread hnone

theorem keeps_lockToken {hash : Hash}
    (h : d.Allows done "Failed to lock refresh token" (.lockToken hash))
    (hread : d.Reads done "Failed to lock refresh token" (.lockToken hash) Tokens.read)
    (hnone : d.Misses done (.lockToken hash) .unknownToken) :
    Keeps d (fun done' t => FirstRow (.lockToken hash) Tokens.read done done' (some t)) done
      (Tokens.lock hash).run :=
  keeps_required rfl (fun _ => rfl) h hread hnone

end

/-! ### Transactions -/

theorem mem_split_append {x : Exchange} {trace last before after : Trace}
    (h : trace ++ last = before ++ x :: after) (hx : x ∉ last) :
    ∃ after', trace = before ++ x :: after' := by
  rcases List.append_eq_append_iff.mp h with ⟨between, rfl, hlast⟩ | ⟨later, rfl, hafter⟩
  · exact absurd (hlast ▸ by simp) hx
  · cases later with
    | nil => exact absurd (by rw [← show x :: after = last from hafter]; simp) hx
    | cons y later =>
      obtain ⟨rfl, -⟩ := List.cons.inj hafter
      exact ⟨later, rfl⟩

/-- A transaction runs the statements of its body, once it has been begun. -/
theorem ran_in_transaction {body : Action (Verdict α)} {trace : Trace} {result : Except Error α}
    (h : Transacted body trace result) {before after : Trace} {s : Statement}
    {a : Except Failure Reply} (hsplit : trace = before ++ ran s a :: after) :
    ∃ (inner : Trace) (x : Except Error (Verdict α)) (before' after' : Trace),
      Traced body.run inner x ∧ before = begun (.ok ()) :: before' ∧
        inner = before' ++ ran s a :: after' := by
  have hinner : ∀ {inner last : Trace}, ran s a ∉ last →
      begun (.ok ()) :: inner ++ last = before ++ ran s a :: after →
      ∃ before' after', before = begun (.ok ()) :: before' ∧
        inner = before' ++ ran s a :: after' := by
    intro inner last hlast he
    cases before with
    | nil => cases he
    | cons x before =>
      obtain ⟨rfl, hrest⟩ := List.cons.inj he
      obtain ⟨after', hafter⟩ := mem_split_append hrest hlast
      exact ⟨before, after', rfl, hafter⟩
  cases h with
  | unbegun f =>
    cases before with
    | nil => cases hsplit
    | cons x before => simp at hsplit
  | abandoned h =>
    obtain ⟨before', after', hb, hi⟩ := hinner (by simp) hsplit
    exact ⟨_, _, before', after', h, hb, hi⟩
  | uncommitted f h =>
    obtain ⟨before', after', hb, hi⟩ := hinner (by simp) hsplit
    exact ⟨_, _, before', after', h, hb, hi⟩
  | concluded h =>
    obtain ⟨before', after', hb, hi⟩ := hinner (by simp) hsplit
    exact ⟨_, _, before', after', h, hb, hi⟩

/-- The statements of a transaction are those of its body. -/
theorem Transacted.inner {body : Action (Verdict α)} {trace : Trace} {result : Except Error α}
    (h : Transacted body trace result) :
    (∀ s a, ran s a ∉ trace) ∨ ∃ (inner : Trace) (x : Except Error (Verdict α)),
      Traced body.run inner x ∧ ∀ s a, ran s a ∈ trace ↔ ran s a ∈ inner := by
  cases h with
  | unbegun f => exact .inl (by simp)
  | abandoned h => exact .inr ⟨_, _, h, by simp⟩
  | uncommitted f h => exact .inr ⟨_, _, h, by simp⟩
  | concluded h => exact .inr ⟨_, _, h, by simp⟩

theorem Keeps.sent_in_transaction {d : Discipline} {ends : Answered → Verdict α → Prop}
    {body : Action (Verdict α)} {trace : Trace} {result : Except Error α}
    (hk : Keeps d ends [] body.run) (h : Traced (transaction body).run trace result)
    {before after : Trace} {s : Statement} {a : Except Failure Reply}
    (hsplit : trace = before ++ ran s a :: after) :
    ∃ done : Answered, before = begun (.ok ()) :: done.trace ∧ d.sends done s := by
  obtain ⟨inner, x, before', after', ht, rfl, hinner⟩ :=
    ran_in_transaction (traced_transaction h) hsplit
  obtain ⟨done, rfl, hsends⟩ := hk.sent ht hinner
  exact ⟨done, rfl, hsends⟩

/-! ## Steady programs -/

/-- A program runs statements only and ends with the error of a step as soon as a statement fails in
it. Other errors are of those that it `raises`, and when it ends with a result then `post` holds of
the statements that have been answered and the result. -/
def Steady (raises : Error → Prop) (post : Answered → α → Prop) :
    Answered → Prog signature (Except Error α) → Prop
  | done, .pure (.ok a) => post done a
  | _, .pure (.error e) => raises e
  | done, .ask (.run s) k =>
    (∀ f : Failure, ∃ step, k (Except.error f) = .pure (.error (f.toError step))) ∧
      ∀ reply : Reply, Steady raises post (done ++ [(s, reply)]) (k (Except.ok reply))
  | _, .ask _ _ => False

/-- What running a steady program comes to: every statement was answered, or all but the last. -/
inductive Ran (raises : Error → Prop) (post : Answered → α → Prop) (done : Answered) :
    Trace → Except Error α → Prop where
  | ended (later : Answered) {a} (h : post (done ++ later) a) :
      Ran raises post done later.trace (.ok a)
  | raised (later : Answered) {e} (h : raises e) : Ran raises post done later.trace (.error e)
  | failed (later : Answered) (s : Statement) (f : Failure) (step : String) :
      Ran raises post done (later.trace ++ [ran s (.error f)]) (.error (f.toError step))

section

variable {raises : Error → Prop} {post : Answered → α → Prop} {postβ : Answered → β → Prop}
  {done : Answered}

/-- The discipline of a steady program. -/
def Discipline.steady (raises : Error → Prop) : Discipline where
  sends _ _ := True
  fails _ _ f e := ∃ step, e = f.toError step
  raises _ e := raises e

theorem steady_iff_keeps {p : Prog signature (Except Error α)} :
    Steady raises post done p ↔ Keeps (.steady raises) post done p := by
  induction p generalizing done with
  | pure x => cases x <;> rfl
  | ask r k ih =>
    cases r with
    | run s =>
      have hfail : ∀ f : Failure, (∃ step, k (Except.error f) = .pure (.error (f.toError step))) ↔
          ∃ e, k (Except.error f) = .pure (.error e) ∧ ∃ step, e = f.toError step := by
        intro f
        constructor
        · rintro ⟨step, h⟩
          exact ⟨_, h, step, rfl⟩
        · rintro ⟨_, h, step, rfl⟩
          exact ⟨step, h⟩
      constructor
      · rintro ⟨h, hgo⟩
        exact ⟨trivial, fun f => (hfail f).mp (h f), fun reply => (ih _).mp (hgo reply)⟩
      · rintro ⟨-, h, hgo⟩
        exact ⟨fun f => (hfail f).mpr (h f), fun reply => (ih _).mpr (hgo reply)⟩
    | _ => exact Iff.rfl

theorem Steady.ran {p : Prog signature (Except Error α)} {trace : Trace} {result : Except Error α}
    (h : Steady raises post done p) (ht : Traced p trace result) :
    Ran raises post done trace result := by
  cases (steady_iff_keeps.mp h).course ht with
  | ended later h => exact .ended later h
  | raised later h => exact .raised later h
  | failed later s f hs h =>
    obtain ⟨step, rfl⟩ := h
    exact .failed later s f step

theorem Ran.post_of_ok {trace : Trace} {a : α} (h : Ran raises post done trace (.ok a)) :
    ∃ later : Answered, trace = later.trace ∧ post (done ++ later) a := by
  cases h with
  | ended later h => exact ⟨later, rfl, h⟩

theorem Ran.raises_of_error {trace : Trace} {e : Error} (h : Ran raises post done trace (.error e))
    (hraises : ∀ (f : Failure) step, raises (f.toError step)) : raises e := by
  cases h with
  | raised later h => exact h
  | failed later s f step => exact hraises f step

/-! ### Laws -/

theorem steady_pure {b : β} (h : postβ done b) :
    Steady raises postβ done (pure b : Action β).run := h

theorem steady_throw {e : Error} (h : raises e) :
    Steady raises postβ done (throw e : Action β).run := h

theorem steady_bind {x : Action α} {f : α → Action β} (hx : Steady raises post done x.run)
    (hf : ∀ done a, post done a → Steady raises postβ done (f a).run) :
    Steady raises postβ done (x >>= f).run :=
  steady_iff_keeps.mpr <| keeps_bind (steady_iff_keeps.mp hx) fun done a h =>
    steady_iff_keeps.mp (hf done a h)

theorem Discipline.allows_steady (step : String) (s : Statement) :
    (Discipline.steady raises).Allows done step s := ⟨trivial, fun _ => ⟨step, rfl⟩⟩

theorem steady_execute (step : String) (s : Statement) :
    Steady raises (fun done' n => ∃ reply : Reply, done' = done ++ [(s, reply)] ∧
      n = reply.affected) done (execute step s).run :=
  steady_iff_keeps.mpr (keeps_execute (Discipline.allows_steady step s))

/-- Going on unless a condition holds. -/
theorem steady_unless {c : Prop} [Decidable c] {e : Error} {f : Unit → Action β} (he : raises e)
    (h : ¬c → Steady raises postβ done (f ()).run) :
    Steady raises postβ done (if c then throw e >>= f else f () : Action β).run :=
  steady_iff_keeps.mpr (keeps_unless he fun hc => steady_iff_keeps.mp (h hc))

theorem steady_liftExcept_bind {x : Except Error α} {f : α → Action β}
    (herror : ∀ e, x = .error e → raises e)
    (hok : ∀ a, x = .ok a → Steady raises postβ done (f a).run) :
    Steady raises postβ done (liftExcept x >>= f).run :=
  steady_iff_keeps.mpr (keeps_liftExcept_bind herror fun a h => steady_iff_keeps.mp (hok a h))

theorem steady_fetchOptional (hraises : ∀ (f : Failure) step, raises (f.toError step))
    (step : String) (reader : Reader α) (s : Statement) :
    Steady raises (FirstRow s reader done) done (fetchOptional step reader s).run :=
  steady_iff_keeps.mpr <| keeps_fetchOptional (Discipline.allows_steady step s)
    fun _ _ _ f _ _ => hraises f step

theorem steady_fetchOne (hraises : ∀ (f : Failure) step, raises (f.toError step))
    (step : String) (reader : Reader α) (s : Statement) :
    Steady raises (fun done' a => FirstRow s reader done done' (some a)) done
      (fetchOne step reader s).run :=
  steady_iff_keeps.mpr <| keeps_fetchOne (Discipline.allows_steady step s)
    (fun _ _ _ f _ _ => hraises f step) fun _ _ => hraises .rowNotFound step

end

end SessionKeeper.Database
