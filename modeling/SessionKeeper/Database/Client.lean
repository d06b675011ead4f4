import SessionKeeper.Database.Failure
import SessionKeeper.Instant
import SessionKeeper.Opaque
import SessionKeeper.Prog
import SessionKeeper.Uuid

/-!
A client of a database: statements with parameters go out, and rows or a number of affected rows
come back. Statements stand alone or in a transaction, which is committed when what is done in it
comes to a verdict, and rolled back when a statement fails on the way. Every failure is reported
as the error of the step that met it.
-/

namespace SessionKeeper.Database

/-- A value that travels between the client and the database. -/
inductive Value where
  /-- No value. -/
  | null
  /-- An identifier. -/
  | uuid (u : Uuid)
  /-- A text. -/
  | text (s : String)
  /-- A number. -/
  | int (n : Int)
  /-- A truth value. -/
  | bool (b : Bool)
  /-- An instant in whole microseconds. -/
  | instant (t : Instant)
  /-- Bytes. -/
  | bytes (b : List UInt8)
deriving DecidableEq, Repr

namespace Value

/-- A value that may be missing. -/
def ofOption {α : Type} (f : α → Value) : Option α → Value
  | none => null
  | some a => f a

/-- An instant, which travels in whole microseconds. -/
def ofInstant (t : Instant) : Value := instant t.toMicros

end Value

/-- A statement and its parameters. -/
structure Statement where
  /-- The text, in which `$1` stands for the first parameter. -/
  text : String
  /-- The parameters. -/
  parameters : List Value := []
deriving DecidableEq, Repr

/-- A row: values under the names of their columns. -/
abbrev Row := List (String × Value)

/-- What a statement is answered with. -/
structure Reply where
  /-- The rows that it returns. -/
  rows : List Row
  /-- The number of rows that it affects. -/
  affected : Nat
deriving DecidableEq, Repr

/-- A numbered change to the tables of a database. -/
structure Migration where
  /-- Its number, by which migrations are ordered. -/
  version : Nat
  /-- What it changes. -/
  description : String
deriving DecidableEq, Repr

/-- What a database knows about the migrations that have been run on it. -/
structure MigrationLog where
  /-- The migration that was begun and not finished. -/
  unfinished : Option Nat := none
  /-- The migrations that were finished. -/
  finished : List Nat := []
  /-- Those of them that were not what they are now. -/
  altered : List Nat := []
deriving DecidableEq, Repr

/-- What a client asks of a database. -/
inductive Request where
  /-- Begin a transaction. -/
  | begin
  /-- Make a transaction's changes last. -/
  | commit
  /-- Give up a transaction. -/
  | rollback
  /-- Run a statement. -/
  | run (s : Statement)
  /-- Tell about the migrations that have been run. -/
  | migrationLog
  /-- Run a migration. -/
  | migrate (m : Migration)

/-- What a database answers. -/
def Request.Answer : Request → Type
  | .begin => Except Failure Unit
  | .commit => Except Failure Unit
  | .rollback => Unit
  | .run _ => Except Failure Reply
  | .migrationLog => MigrationLog
  | .migrate _ => Except Failure Unit

/-- Programs that ask a database. -/
def signature : Signature := ⟨Request, Request.Answer⟩

/-- An operation of a client. -/
abbrev Action (α : Type) := ExceptT Error (Prog signature) α

/-- Ask a database. -/
def ask (r : Request) : Prog signature r.Answer := Prog.request signature r

/-- A result, or the error of a step that met a failure. -/
def orFail {α : Type} (step : String) : Except Failure α → Except Error α
  | .ok a => .ok a
  | .error f => .error (f.toError step)

/-! ### Reading rows -/

/-- How rows are read as values of a type. -/
abbrev Reader (α : Type) := Row → Except Failure α

namespace Row

/-- The value in a column. -/
def value (row : Row) (column : String) : Except Failure Value :=
  match row.lookup column with
  | some v => .ok v
  | none => .error (.columnNotFound column)

/-- Read a column. -/
def read {α : Type} (of? : Value → Option α) (row : Row) (column : String) : Except Failure α := do
  match of? (← row.value column) with
  | some a => .ok a
  | none => .error (.undecodable column)

/-- Read a column that may have no value. -/
def read? {α : Type} (of? : Value → Option α) (row : Row) (column : String) :
    Except Failure (Option α) := do
  match ← row.value column with
  | .null => .ok none
  | v =>
    match of? v with
    | some a => .ok (some a)
    | none => .error (.undecodable column)

/-- Read the only column of a row. -/
def readFirst {α : Type} (of? : Value → Option α) (row : Row) : Except Failure α :=
  match row with
  | (column, v) :: _ =>
    match of? v with
    | some a => .ok a
    | none => .error (.undecodable column)
  | [] => .error (.columnNotFound "0")

end Row

namespace Value

/-- An identifier. -/
def toUuid? : Value → Option Uuid
  | uuid u => some u
  | _ => none

/-- A text. -/
def toText? : Value → Option String
  | text s => some s
  | _ => none

/-- A number. -/
def toInt? : Value → Option Int
  | int n => some n
  | _ => none

/-- A truth value. -/
def toBool? : Value → Option Bool
  | bool b => some b
  | _ => none

/-- An instant. -/
def toInstant? : Value → Option Instant
  | instant t => some t
  | _ => none

/-- Bytes. -/
def toBytes? : Value → Option (List UInt8)
  | bytes b => some b
  | _ => none

end Value

/-! ### Running statements -/

section Running

variable {α : Type}

/-- Run a statement; a failure is the error of the step. -/
def run (step : String) (s : Statement) : Action Reply :=
  ExceptT.mk do return orFail step (← ask (.run s))

/-- Run a statement and count the rows that it affects. -/
def execute (step : String) (s : Statement) : Action Nat := do
  return (← run step s).affected

/-- Run a statement and read all of its rows. -/
def fetchAll (step : String) (reader : Reader α) (s : Statement) : Action (List α) := do
  let reply ← run step s
  liftExcept (orFail step (reply.rows.mapM reader))

/-- Run a statement and read its first row, if it has one. -/
def fetchOptional (step : String) (reader : Reader α) (s : Statement) : Action (Option α) := do
  let reply ← run step s
  match reply.rows with
  | [] => return none
  | row :: _ => return some (← liftExcept (orFail step (reader row)))

/-- Run a statement and read its first row, which it has to have. -/
def fetchOne (step : String) (reader : Reader α) (s : Statement) : Action α := do
  let reply ← run step s
  match reply.rows with
  | [] => throw (Failure.rowNotFound.toError step)
  | row :: _ => liftExcept (orFail step (reader row))

/-! ### Transactions -/

/-- What a transaction comes to: it is committed, with the given step, and then its result is given
or its error raised. -/
structure Verdict (α : Type) where
  /-- The step that committing is. -/
  step : String
  /-- The result. -/
  result : Except Error α

/-- Come to a result. -/
def Verdict.ofResult (step : String) (a : α) : Verdict α := ⟨step, .ok a⟩

/-- Give up the transaction and raise an error. -/
def abandon (e : Error) : Action α := do
  ExceptT.lift (ask .rollback)
  throw e

/-- Commit the transaction and give its result. A commit that fails gives the transaction up. -/
def conclude (v : Verdict α) : Action α := do
  match orFail v.step (← ExceptT.lift (ask .commit)) with
  | .ok () => liftExcept v.result
  | .error e => abandon e

/-- Run `body` in a transaction. -/
def transaction (body : Action (Verdict α)) : Action α := do
  liftExcept (orFail "Failed to begin transaction" (← ExceptT.lift (ask .begin)))
  match ← ExceptT.lift body.run with
  | .ok v => conclude v
  | .error e => abandon e

end Running

/-- The database does not answer. -/
def unhealthy (f : Failure) : Error := ⟨.database, "Health check failed", some f.text⟩

/-- Whether the database answers as it should. -/
def isHealthy : Action Bool := do
  match ← ExceptT.lift (ask (.run ⟨"SELECT 1", []⟩)) with
  | .error f => throw (unhealthy f)
  | .ok ⟨[], _⟩ => throw (unhealthy .rowNotFound)
  | .ok ⟨row :: _, _⟩ =>
    match Row.readFirst Value.toInt? row with
    | .ok n => return n == 1
    | .error f => throw (unhealthy f)

end SessionKeeper.Database
