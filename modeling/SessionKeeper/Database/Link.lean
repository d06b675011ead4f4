import SessionKeeper.Config.Settings
import SessionKeeper.Prog

/-!
The link to a database: it is made before anything is asked of the database, and given up when
everything is done. What is asked in between belongs to the client.
-/

namespace SessionKeeper.Database

/-- What is asked for the sake of the link. -/
inductive Link where
  /-- Make the link. -/
  | connect (s : DatabaseSettings)
  /-- Give the link up. -/
  | disconnect

namespace Link

/-- What is answered: the link is made, or there is a reason why it is not. -/
def Answer : Link → Type
  | connect _ => Except String Unit
  | disconnect => Unit

/-- Programs that make a link. -/
def signature : Signature := ⟨Link, Answer⟩

end Link

section Linked

variable (τ : Signature)

/-- The error of a link that is not made. -/
def linkError (reason : String) : Error :=
  .because .database "Failed to connect to database" reason

/-- Make the link to the database. -/
def connect (s : DatabaseSettings) : ExceptT Error (Prog (Link.signature.sum τ)) Unit :=
  ExceptT.mk do
    let made : Except String Unit ← Prog.requestLeft Link.signature τ (.connect s)
    return made.mapError linkError

/-- Give the link up. -/
def disconnect : ExceptT Error (Prog (Link.signature.sum τ)) Unit :=
  ExceptT.lift (Prog.requestLeft Link.signature τ .disconnect)

end Linked

end SessionKeeper.Database
