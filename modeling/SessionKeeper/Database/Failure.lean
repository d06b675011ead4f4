import SessionKeeper.Error

/-!
Failures of the database and of its client, and the kinds of error they are reported as. A refused
write is told apart by the SQLSTATE code and by the name of the constraint; every other failure is
one of the database.
-/

namespace SessionKeeper.Database

/-- Why a statement has no reply. -/
inductive Failure where
  /-- The database answers with an error. -/
  | refused (code constraint : Option String) (message : String)
  /-- A row was asked for and there is none. -/
  | rowNotFound
  /-- A row has no column of the given name. -/
  | columnNotFound (name : String)
  /-- A column holds a value of another type than the one that is read. -/
  | undecodable (column : String)
  /-- No connection became free in time. -/
  | poolTimedOut
  /-- The connections have been closed. -/
  | poolClosed
  /-- The connection's worker is gone. -/
  | workerCrashed
  /-- The database sent something that the client cannot understand. -/
  | unexpectedData (what : String)
deriving DecidableEq, Repr

namespace Failure

/-- What a person reads about a failure. -/
def text : Failure → String
  | .refused _ _ message => "error returned from database: " ++ message
  | .rowNotFound => "no rows returned by a query that expected to return at least one row"
  | .columnNotFound name => "no column found for name: " ++ name
  | .undecodable column => "error occurred while decoding column \"" ++ column ++ "\""
  | .poolTimedOut => "pool timed out while waiting for an open connection"
  | .poolClosed => "attempted to acquire a connection on a closed pool"
  | .workerCrashed => "attempted to communicate with a crashed background worker"
  | .unexpectedData what => "encountered unexpected or invalid data: " ++ what

/-- The code of a broken uniqueness rule. -/
def uniqueViolation : String := "23505"

/-- The code of a reference to a missing row. -/
def foreignKeyViolation : String := "23503"

/-- The code of a broken rule on a row. -/
def checkViolation : String := "23514"

/-- The rule that no two tokens have one hash. -/
def hashIsUnique : String := "refresh_tokens_token_hash_key"

/-- The rule that a session has one current token at most. -/
def oneCurrentPerSession : String := "refresh_tokens_one_current_per_session"

/-- The rule that a token's replacement is a token. -/
def replacementExists : String := "refresh_tokens_replaced_by_fkey"

/-- The kind of error that a code and a constraint stand for. -/
def kindOf (code constraint : Option String) : ErrorKind :=
  if code = some uniqueViolation then
    if constraint = some hashIsUnique then .constraintViolation
    else if constraint = some oneCurrentPerSession then .tokenAlreadyCurrent
    else .conflict
  else if code = some foreignKeyViolation then
    if constraint = some replacementExists then .constraintViolation else .notFound
  else if code = some checkViolation then .constraintViolation
  else .database

/-- The kind of error that a failure is reported as. -/
def kind : Failure → ErrorKind
  | .refused code constraint _ => kindOf code constraint
  | _ => .database

/-- The error of the step that met a failure. -/
def toError (step : String) (f : Failure) : Error := .because f.kind step f.text

end Failure

end SessionKeeper.Database
