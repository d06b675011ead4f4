/-!
Programs with effects, as data. A program either has its result or puts a request to its
surroundings and says how to go on with the answer, so that one program can be answered by a store
in memory, by a client of a database, or by a script of prepared answers, and so that what it asks
can be reasoned about without running it.
-/

namespace SessionKeeper

/-- What a program may ask for, and the type of the answer to each request. -/
structure Signature where
  /-- The requests. -/
  Request : Type
  /-- The type of the answer to a request. -/
  Answer : Request → Type

/-- A program over `σ` that ends with a value of type `α`. -/
inductive Prog (σ : Signature) (α : Type) : Type where
  /-- The program has ended. -/
  | pure (a : α)
  /-- The program asks `r` and goes on with the answer. -/
  | ask (r : σ.Request) (k : σ.Answer r → Prog σ α)

namespace Prog

variable {σ τ : Signature} {α β γ : Type}

/-- Run `p`, then the program that its result chooses. -/
def bind : Prog σ α → (α → Prog σ β) → Prog σ β
  | .pure a, f => f a
  | .ask r k, f => .ask r fun a => (k a).bind f

instance : Monad (Prog σ) where
  pure := Prog.pure
  bind := Prog.bind

/-- Ask one request and end with its answer. -/
def request (σ : Signature) (r : σ.Request) : Prog σ (σ.Answer r) :=
  .ask r .pure

@[simp] theorem pure_bind' (a : α) (f : α → Prog σ β) : (Prog.pure a).bind f = f a := rfl

@[simp] theorem ask_bind (r : σ.Request) (k : σ.Answer r → Prog σ α) (f : α → Prog σ β) :
    (Prog.ask r k).bind f = .ask r fun a => (k a).bind f := rfl

theorem bind_pure' (p : Prog σ α) : p.bind .pure = p := by
  induction p with
  | pure a => rfl
  | ask r k ih => simp only [ask_bind, ih]

theorem bind_assoc' (p : Prog σ α) (f : α → Prog σ β) (g : β → Prog σ γ) :
    (p.bind f).bind g = p.bind fun a => (f a).bind g := by
  induction p with
  | pure a => rfl
  | ask r k ih => simp only [ask_bind, ih]

instance : LawfulMonad (Prog σ) :=
  LawfulMonad.mk' (Prog σ) bind_pure' (fun _ _ => rfl) bind_assoc'

/-- Run a program in a monad that answers every request. -/
def run {m : Type → Type} [Monad m] (answer : (r : σ.Request) → m (σ.Answer r)) :
    Prog σ α → m α
  | .pure a => Pure.pure a
  | .ask r k => do
    let a ← answer r
    run answer (k a)

@[simp] theorem run_pure {m : Type → Type} [Monad m] (answer : (r : σ.Request) → m (σ.Answer r))
    (a : α) : run answer (.pure a) = (Pure.pure a : m α) := rfl

@[simp] theorem run_ask {m : Type → Type} [Monad m] (answer : (r : σ.Request) → m (σ.Answer r))
    (r : σ.Request) (k : σ.Answer r → Prog σ α) :
    run answer (.ask r k) = (answer r >>= fun a => run answer (k a)) := rfl

/-- Running a sequence is running its parts one after the other. -/
theorem run_bind {m : Type → Type} [Monad m] [LawfulMonad m]
    (answer : (r : σ.Request) → m (σ.Answer r)) (p : Prog σ α) (f : α → Prog σ β) :
    run answer (p.bind f) = (run answer p >>= fun a => run answer (f a)) := by
  induction p with
  | pure a => simp
  | ask r k ih => simp [ih]

/-- Answer the requests of a program up to the first one at which it is to stop. -/
def runUntil {m : Type → Type} [Monad m] (stop : σ.Request → Bool)
    (answer : (r : σ.Request) → m (σ.Answer r)) : Prog σ α → m (Prog σ α)
  | .pure a => Pure.pure (.pure a)
  | .ask r k =>
    if stop r then Pure.pure (.ask r k)
    else do
      let a ← answer r
      runUntil stop answer (k a)

/-- Replace every request by a program that answers it over another signature. -/
def handle (answer : (r : σ.Request) → Prog τ (σ.Answer r)) (p : Prog σ α) : Prog τ α :=
  run answer p

end Prog

namespace Signature

/-- The requests of two signatures together. -/
def sum (σ τ : Signature) : Signature where
  Request := σ.Request ⊕ τ.Request
  Answer
    | .inl r => σ.Answer r
    | .inr r => τ.Answer r

end Signature

namespace Prog

variable {σ τ υ : Signature} {α : Type}

/-- Ask a request of the first of two signatures. -/
def requestLeft (σ τ : Signature) (r : σ.Request) : Prog (σ.sum τ) (σ.Answer r) :=
  .ask (Sum.inl r : (σ.sum τ).Request) .pure

/-- Ask a request of the second of two signatures. -/
def requestRight (σ τ : Signature) (r : τ.Request) : Prog (σ.sum τ) (τ.Answer r) :=
  .ask (Sum.inr r : (σ.sum τ).Request) .pure

/-- A program over the first of two signatures. -/
def left (p : Prog σ α) : Prog (σ.sum τ) α := p.handle (requestLeft σ τ)

/-- A program over the second of two signatures. -/
def right (p : Prog τ α) : Prog (σ.sum τ) α := p.handle (requestRight σ τ)

/-- Answer the requests of the first of two signatures and leave those of the second. -/
def handleLeft (answer : (r : σ.Request) → Prog (υ.sum τ) (σ.Answer r)) :
    Prog (σ.sum τ) α → Prog (υ.sum τ) α :=
  handle fun
    | .inl r => answer r
    | .inr r => requestRight υ τ r

end Prog

end SessionKeeper
