import SessionKeeper.Database.Client

/-!
# What is exchanged with a database

A trace is what a client asks of a database, in order, each request with its answer. `Traced` says
which traces a program can leave behind and what it ends with; nothing is assumed of the answers, so
what holds of every trace holds of every database. The traces of a transaction are those of its body
between the requests that begin and end it (`Transacted`).
-/

namespace SessionKeeper.Database

variable {α β : Type}

/-! ## Traces -/

/-- A request and its answer. -/
abbrev Exchange := (r : Request) × r.Answer

namespace Exchange

/-- A transaction is begun, or fails to begin. -/
def begun (a : Except Failure Unit) : Exchange := ⟨.begin, a⟩

/-- A transaction is committed, or fails to be. -/
def committed (a : Except Failure Unit) : Exchange := ⟨.commit, a⟩

/-- A transaction is given up. -/
def rolledBack : Exchange := ⟨.rollback, ()⟩

/-- A statement is run. -/
def ran (s : Statement) (a : Except Failure Reply) : Exchange := ⟨.run s, a⟩

section

variable {s : Statement} {a : Except Failure Reply}

@[simp] theorem ran_ne_begun (b : Except Failure Unit) : ran s a ≠ begun b := nofun

@[simp] theorem ran_ne_committed (b : Except Failure Unit) : ran s a ≠ committed b := nofun

@[simp] theorem ran_ne_rolledBack : ran s a ≠ rolledBack := nofun

@[simp] theorem ran_inj {s' : Statement} {a' : Except Failure Reply} :
    ran s a = ran s' a' ↔ s = s' ∧ a = a' := by
  constructor
  · intro h
    cases h
    exact ⟨rfl, rfl⟩
  · rintro ⟨rfl, rfl⟩
    rfl

end

end Exchange

/-- What is exchanged, in order. -/
abbrev Trace := List Exchange

/-- A program whose requests are answered as in the trace, and which asks nothing else, ends with
the result. -/
inductive Traced : Prog signature α → Trace → α → Prop where
  | pure (a : α) : Traced (.pure a) [] a
  | ask {r : Request} {k : signature.Answer r → Prog signature α} (a : r.Answer) {trace result}
      (h : Traced (k a) trace result) : Traced (.ask r k) (⟨r, a⟩ :: trace) result

theorem traced_pure {a b : α} {trace : Trace} (h : Traced (.pure a : Prog signature α) trace b) :
    trace = [] ∧ b = a := by
  cases h
  exact ⟨rfl, rfl⟩

theorem traced_ask {r : Request} {k : signature.Answer r → Prog signature α} {trace : Trace}
    {result : α} (h : Traced (.ask r k) trace result) :
    ∃ (a : r.Answer) (rest : Trace), trace = ⟨r, a⟩ :: rest ∧ Traced (k a) rest result := by
  cases h with
  | ask a h => exact ⟨a, _, rfl, h⟩

/-- A sequence leaves the traces of its parts one after the other. -/
theorem traced_bind {p : Prog signature α} {f : α → Prog signature β} {trace : Trace} {b : β}
    (h : Traced (p.bind f) trace b) :
    ∃ before after a, trace = before ++ after ∧ Traced p before a ∧ Traced (f a) after b := by
  induction p generalizing trace with
  | pure a => exact ⟨[], trace, a, rfl, .pure a, h⟩
  | ask r k ih =>
    obtain ⟨a, rest, rfl, hk⟩ := traced_ask h
    obtain ⟨before, after, x, rfl, hp, hf⟩ := ih a hk
    exact ⟨⟨r, a⟩ :: before, after, x, rfl, .ask a hp, hf⟩

/-- What is exchanged with a database whose answers may depend on what has been exchanged before,
and the result. -/
def exchange (reply : Trace → (r : Request) → r.Answer) : Trace → Prog signature α → Trace × α
  | _, .pure a => ([], a)
  | before, .ask r k =>
    let answered : Exchange := ⟨r, reply before r⟩
    let (later, a) := exchange reply (before ++ [answered]) (k (reply before r))
    (answered :: later, a)

/-- However a database answers, there is a trace. -/
theorem traced_exchange (reply : Trace → (r : Request) → r.Answer) (before : Trace)
    (p : Prog signature α) :
    Traced p (exchange reply before p).1 (exchange reply before p).2 := by
  induction p generalizing before with
  | pure a => exact .pure a
  | ask r k ih => exact .ask _ (ih _ _)

/-- A database that answers the statements of a transaction one after the other. -/
def inTurn (answers : List (Except Failure Reply)) (before : Trace) (r : Request) : r.Answer :=
  match r with
  | .begin | .commit | .migrate _ => Except.ok ()
  | .rollback => ()
  | .migrationLog => ({} : MigrationLog)
  | .run _ => answers.getD (before.length - 1) (.ok ⟨[], 0⟩)

/-! ## Transactions -/

/-- A sequence goes on with the result of its first part, or ends with its error. -/
theorem action_bind (x : Action α) (f : α → Action β) :
    (x >>= f).run = x.run.bind fun
      | .ok a => (f a).run
      | .error e => .pure (.error e) := by
  refine congrArg x.run.bind (funext fun a => ?_)
  cases a <;> rfl

/-- What comes after a program that raises no error. -/
theorem lift_bind_run (p : Prog signature α) (f : α → Action β) :
    (ExceptT.lift p >>= f : Action β).run = p.bind fun a => (f a).run :=
  Prog.bind_assoc' p (fun a => .pure (Except.ok a : Except Error α)) _

open Exchange

/-- The traces of a transaction, and what it ends with. -/
inductive Transacted (body : Action (Verdict α)) : Trace → Except Error α → Prop where
  | unbegun (f : Failure) :
      Transacted body [begun (.error f)] (.error (f.toError "Failed to begin transaction"))
  | abandoned {trace e} (h : Traced body.run trace (.error e)) :
      Transacted body (begun (.ok ()) :: trace ++ [rolledBack]) (.error e)
  | uncommitted {trace v} (f : Failure) (h : Traced body.run trace (.ok v)) :
      Transacted body (begun (.ok ()) :: trace ++ [committed (.error f), rolledBack])
        (.error (f.toError v.step))
  | concluded {trace v} (h : Traced body.run trace (.ok v)) :
      Transacted body (begun (.ok ()) :: trace ++ [committed (.ok ())]) v.result

theorem traced_abandon {e : Error} {trace : Trace} {result : Except Error α}
    (h : Traced (abandon e : Action α).run trace result) :
    trace = [rolledBack] ∧ result = .error e := by
  obtain ⟨a, rest, rfl, hk⟩ := traced_ask h
  obtain ⟨rfl, rfl⟩ := traced_pure hk
  exact ⟨rfl, rfl⟩

theorem traced_conclude {v : Verdict α} {trace : Trace} {result : Except Error α}
    (h : Traced (conclude v).run trace result) :
    (trace = [committed (.ok ())] ∧ result = v.result) ∨
      ∃ f, trace = [committed (.error f), rolledBack] ∧ result = .error (f.toError v.step) := by
  obtain ⟨a, rest, rfl, hk⟩ := traced_ask h
  cases a with
  | ok a =>
    left
    obtain ⟨step, x⟩ := v
    cases x <;>
    · obtain ⟨rfl, rfl⟩ := traced_pure hk
      exact ⟨rfl, rfl⟩
  | error f =>
    right
    obtain ⟨rfl, rfl⟩ := traced_abandon hk
    exact ⟨f, rfl, rfl⟩

theorem transaction_run (body : Action (Verdict α)) :
    (transaction body).run = .ask .begin fun (a : Except Failure Unit) =>
      match a with
      | .error f => .pure (.error (f.toError "Failed to begin transaction"))
      | .ok _ => body.run.bind fun
        | .ok v => (conclude v).run
        | .error e => (abandon e).run := by
  refine congrArg (@Prog.ask signature _ Request.begin) (funext fun a => ?_)
  cases (a : Except Failure Unit) with
  | error f => rfl
  | ok a =>
    refine (lift_bind_run body.run _).trans (congrArg body.run.bind (funext fun x => ?_))
    cases x <;> rfl

theorem traced_transaction {body : Action (Verdict α)} {trace : Trace} {result : Except Error α}
    (h : Traced (transaction body).run trace result) : Transacted body trace result := by
  rw [transaction_run] at h
  obtain ⟨a, rest, rfl, hk⟩ := traced_ask h
  cases a with
  | error f =>
    obtain ⟨rfl, rfl⟩ := traced_pure hk
    exact .unbegun f
  | ok a =>
    obtain ⟨trace, last, x, rfl, hbody, hlast⟩ := traced_bind hk
    cases x with
    | error e =>
      obtain ⟨rfl, rfl⟩ := traced_abandon hlast
      exact .abandoned hbody
    | ok v =>
      rcases traced_conclude hlast with ⟨rfl, rfl⟩ | ⟨f, rfl, rfl⟩
      · exact .concluded hbody
      · exact .uncommitted f hbody

/-! ## Exchanges with a database -/

theorem exchange_bind {reply : Trace → (r : Request) → r.Answer} {before trace later : Trace}
    {p : Prog signature α} {f : α → Prog signature β} {a : α} {b : β}
    (hp : exchange reply before p = (trace, a))
    (hf : exchange reply (before ++ trace) (f a) = (later, b)) :
    exchange reply before (p.bind f) = (trace ++ later, b) := by
  induction p generalizing before trace with
  | pure x =>
    cases hp
    rw [List.append_nil] at hf
    exact hf
  | ask r k ih =>
    cases hp
    rw [List.append_cons] at hf
    have hrest := ih (reply before r) rfl hf
    simp only [Prog.ask_bind, exchange, hrest]
    rfl

/-- An operation leaves this trace with a database, after what has been exchanged before, and ends
with this result. -/
def Leaves (reply : Trace → (r : Request) → r.Answer) (before : Trace) (x : Action α)
    (trace : Trace) (result : Except Error α) : Prop :=
  exchange reply before x.run = (trace, result)

section

variable {reply : Trace → (r : Request) → r.Answer} {before trace later : Trace} {x : Action α}
  {f : α → Action β} {a : α} {b : Except Error β} {e : Error} {s : Statement} {rows : Reply}
  {step : String}

theorem Leaves.bind (hx : Leaves reply before x trace (.ok a))
    (hf : Leaves reply (before ++ trace) (f a) later b) :
    Leaves reply before (x >>= f) (trace ++ later) b := by
  rw [Leaves, action_bind]
  exact exchange_bind hx hf

/-- What follows may do no more than give a result. -/
theorem Leaves.then_result (hx : Leaves reply before x trace (.ok a))
    (hf : (f a).run = .pure b) : Leaves reply before (x >>= f) trace b := by
  have hrest : Leaves reply (before ++ trace) (f a) [] b := by
    rw [Leaves, hf]
    rfl
  rw [← List.append_nil trace]
  exact hx.bind hrest

theorem Leaves.bind_error (hx : Leaves reply before x trace (.error e)) :
    Leaves reply before (x >>= f) trace (.error e) := by
  rw [Leaves, action_bind, ← List.append_nil trace]
  exact exchange_bind hx rfl

theorem leaves_run (h : reply before (.run s) = Except.ok rows) :
    Leaves reply before (run step s) [ran s (.ok rows)] (.ok rows) := by
  show ([ran s (reply before (.run s))], orFail step (reply before (.run s))) = _
  rw [h]
  rfl

/-- At most one row is found, and it is read. -/
theorem leaves_fetchOptional {found : Option β} {row : β → Row} {reader : Reader α} {g : β → α}
    {n : Nat} (h : reply before (.run s) = Except.ok ⟨found.toList.map row, n⟩)
    (hread : ∀ b, found = some b → reader (row b) = .ok (g b)) :
    Leaves reply before (fetchOptional step reader s)
      [ran s (.ok ⟨found.toList.map row, n⟩)] (.ok (found.map g)) := by
  refine (leaves_run h).then_result ?_
  cases found with
  | none => rfl
  | some b =>
    simp only [Option.toList_some, List.map_cons, hread b rfl, orFail]
    rfl

theorem leaves_fetchOne {reader : Reader α} {row : Row} {n : Nat}
    (h : reply before (.run s) = Except.ok ⟨[row], n⟩) (hread : reader row = .ok a) :
    Leaves reply before (fetchOne step reader s) [ran s (.ok ⟨[row], n⟩)] (.ok a) := by
  refine (leaves_run h).then_result ?_
  simp only [hread, orFail]
  rfl

end

section

variable {reply : Trace → (r : Request) → r.Answer} {before trace : Trace}
  {body : Action (Verdict α)}

/-- What is exchanged in a transaction, once it has been begun, is what its body and its end do. -/
theorem leaves_transaction {x : Except Error (Verdict α)} {result : Except Error α} {last : Trace}
    (hbegin : reply before .begin = Except.ok ())
    (hbody : Leaves reply (before ++ [begun (.ok ())]) body trace x)
    (hend : Leaves reply (before ++ [begun (.ok ())] ++ trace)
      (match x with
        | .ok v => conclude v
        | .error e => abandon e) last result) :
    Leaves reply before (transaction body) (begun (.ok ()) :: (trace ++ last)) result := by
  have hrest : exchange reply (before ++ [begun (.ok ())]) (body.run.bind fun
      | .ok v => (conclude v).run
      | .error e => (abandon e).run) = (trace ++ last, result) := by
    refine exchange_bind hbody ?_
    cases x <;> exact hend
  rw [Leaves, transaction_run]
  show (begun (reply before .begin) :: _, _) = _
  rw [hbegin]
  exact congrArg (Prod.map (begun (.ok ()) :: ·) id) hrest

theorem leaves_abandon (e : Error) :
    Leaves reply before (abandon e : Action α) [rolledBack] (.error e) := rfl

theorem leaves_conclude {v : Verdict α} (h : reply before .commit = Except.ok ()) :
    Leaves reply before (conclude v) [committed (.ok ())] v.result := by
  show (committed (reply before .commit) :: _, _) = _
  rw [h]
  obtain ⟨step, result⟩ := v
  cases result <;> rfl

end

end SessionKeeper.Database
