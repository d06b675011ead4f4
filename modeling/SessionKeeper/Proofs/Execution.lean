import SessionKeeper.Prog

/-!
# Programs that may fail, run from start to end

`execute` runs a program that ends with a result or with an error, over whatever answers its
requests one after the other and keeps a state. A sequence runs its first part and goes on with the
result, or ends with the error (`execute_bind`). A store in memory, a store with faults, a database
and a terminal all run their operations so, and their laws for sequences are the ones here.
-/

namespace SessionKeeper

variable {σ τ : Signature} {ε α β S T : Type} {answer : (r : σ.Request) → StateM S (σ.Answer r)}

/-- Run a program from start to end, its requests answered one after the other. -/
def execute (answer : (r : σ.Request) → StateM S (σ.Answer r)) (x : ExceptT ε (Prog σ) α) (s : S) :
    Except ε α × S := (x.run.run answer).run s

theorem execute_bind (x : ExceptT ε (Prog σ) α) (f : α → ExceptT ε (Prog σ) β) (s : S) :
    execute answer (x >>= f) s = match execute answer x s with
      | (.ok a, s') => execute answer (f a) s'
      | (.error e, s') => (.error e, s') := by
  have hrun : execute answer (x >>= f) s =
      ((x.run.bind (ExceptT.bindCont f)).run answer).run s := rfl
  rw [hrun, Prog.run_bind, StateT.run_bind]
  unfold execute
  obtain ⟨a, s'⟩ := (x.run.run answer).run s
  cases a <;> rfl

section

variable {x : ExceptT ε (Prog σ) α} {f : α → ExceptT ε (Prog σ) β} {a : α} {b : β} {e : ε}
  {s s' : S}

theorem execute_bind_ok (h : execute answer x s = (.ok a, s')) (f : α → ExceptT ε (Prog σ) β) :
    execute answer (x >>= f) s = execute answer (f a) s' := by
  rw [execute_bind, h]

theorem execute_bind_error (h : execute answer x s = (.error e, s'))
    (f : α → ExceptT ε (Prog σ) β) : execute answer (x >>= f) s = (.error e, s') := by
  rw [execute_bind, h]

/-- What succeeds has succeeded step by step. -/
theorem execute_bind_eq_ok (h : execute answer (x >>= f) s = (.ok b, s')) :
    ∃ a t, execute answer x s = (.ok a, t) ∧ execute answer (f a) t = (.ok b, s') := by
  rw [execute_bind] at h
  obtain ⟨a, t, hx⟩ : ∃ a t, execute answer x s = (a, t) := ⟨_, _, rfl⟩
  rw [hx] at h
  cases a with
  | error e => cases h
  | ok a => exact ⟨a, t, hx, h⟩

end

theorem execute_liftExcept (x : Except ε α) (s : S) :
    execute answer (liftExcept x : ExceptT ε (Prog σ) α) s = (x, s) := by
  cases x <;> rfl

theorem execute_liftExcept_bind (x : Except ε α) (f : α → ExceptT ε (Prog σ) β) (s : S) :
    execute answer (liftExcept x >>= f) s = match x with
      | .ok a => execute answer (f a) s
      | .error e => (.error e, s) := by
  cases x <;> rfl

/-- A program over the first of two signatures runs as by itself, if the rest of the state is left
alone by the answers. -/
theorem run_left {both : (r : (σ.sum τ).Request) → StateM (S × T) ((σ.sum τ).Answer r)}
    (h : ∀ (r : σ.Request) (s : S) (t : T), (both (Sum.inl r)).run (s, t) =
      (((answer r).run s).1, ((answer r).run s).2, t)) (p : Prog σ α) (s : S) (t : T) :
    ((Prog.left p).run both).run (s, t) =
      (((p.run answer).run s).1, ((p.run answer).run s).2, t) := by
  induction p generalizing s with
  | pure a => rfl
  | ask r k ih =>
    have hrun : ((Prog.left (Prog.ask r k) : Prog (σ.sum τ) α).run both).run (s, t) =
        ((Prog.left (k ((both (Sum.inl r)).run (s, t)).1)).run both).run
          ((both (Sum.inl r)).run (s, t)).2 := rfl
    rw [hrun]
    simp only [h]
    exact ih _ _

end SessionKeeper
