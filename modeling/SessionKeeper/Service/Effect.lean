import SessionKeeper.Store.Request

/-!
What the services need from outside: a store, the present instant, and fresh values that no one can
guess. A service operation is a program that asks for these and ends with a result or an error.
-/

namespace SessionKeeper

/-- What the surroundings provide besides a store. -/
inductive Ambient where
  /-- The present instant. -/
  | now
  /-- A fresh identifier. -/
  | freshId
  /-- A fresh opaque value. -/
  | freshOpaque

namespace Ambient

/-- What the surroundings answer. -/
def Answer : Ambient → Type
  | now => Instant
  | freshId => Uuid
  | freshOpaque => String

/-- Programs that ask their surroundings. -/
def signature : Signature := ⟨Ambient, Answer⟩

end Ambient

namespace Service

/-- Programs that ask a store and their surroundings. -/
def signature : Signature := Store.signature.sum Ambient.signature

/-- An operation of a service. -/
abbrev Action (α : Type) := ExceptT Error (Prog signature) α

/-- Ask the store; its refusal ends the operation. -/
def store (r : Store.Request) : Action r.Reply :=
  ExceptT.mk (Prog.requestLeft Store.signature Ambient.signature r)

/-- Ask the store and go on whether it refuses or not. -/
def tryStore (r : Store.Request) : Action (Except Error r.Reply) :=
  ExceptT.lift (Prog.requestLeft Store.signature Ambient.signature r)

/-- The present instant. -/
def now : Action Instant :=
  ExceptT.lift (Prog.requestRight Store.signature Ambient.signature .now)

/-- A fresh identifier. -/
def freshId : Action Uuid :=
  ExceptT.lift (Prog.requestRight Store.signature Ambient.signature .freshId)

/-- A fresh opaque value. -/
def freshOpaque : Action String :=
  ExceptT.lift (Prog.requestRight Store.signature Ambient.signature .freshOpaque)

/-- Go on with what was looked for, or end with an error if it is not there. -/
def orThrow {α : Type} (e : Error) : Option α → Action α
  | some a => pure a
  | none => throw e

/-- A sequence goes on with the result of its first part, or ends with its error. -/
theorem run_bind {α β : Type} (x : Action α) (f : α → Action β) :
    (x >>= f).run = x.run.bind fun
      | .ok a => (f a).run
      | .error e => .pure (.error e) := by
  refine congrArg x.run.bind (funext fun a => ?_)
  cases a <;> rfl

end Service

end SessionKeeper
