import SessionKeeper.Database.Client
import SessionKeeper.Database.Link
import SessionKeeper.Text.Blank

/-!
A database that answers from a script. It keeps no rows and does not look into statements: the next
prepared reply answers the next statement, and everything that is asked for is noted. Transactions
begin and end by themselves, unless the next reply is a failure prepared for that very moment.
-/

namespace SessionKeeper.Database

/-- A value of a prepared row. -/
inductive Cell where
  /-- The value itself. -/
  | value (v : Value)
  /-- The statement's parameter with the given number, counted from 1. -/
  | parameter (n : Nat)

/-- The moments at which a prepared failure can strike. -/
inductive Moment where
  /-- Whenever a statement is run. -/
  | statement
  /-- When a transaction is begun. -/
  | begin
  /-- When a transaction is committed. -/
  | commit
deriving DecidableEq

/-- A prepared reply. -/
inductive Prepared where
  /-- Rows. -/
  | rows (rows : List (List (String × Cell)))
  /-- One row, made of the statement's parameters. -/
  | echo
  /-- A number of affected rows. -/
  | affected (n : Nat)
  /-- A failure. -/
  | failure (moment : Moment) (f : Failure)

/-- What is noted. -/
inductive Entry where
  /-- A transaction is begun. -/
  | begin
  /-- A transaction is committed. -/
  | commit
  /-- A transaction is given up. -/
  | rollback
  /-- A statement is run. -/
  | statement (s : Statement)
  /-- A migration has been run. -/
  | migrated (m : Migration)
  /-- A migration has failed. -/
  | migrationFailed (version : Nat)

/-- A database that answers from a script. -/
structure Script where
  /-- The replies to come. -/
  replies : List Prepared := []
  /-- What has been asked for. -/
  entries : List Entry := []
  /-- The migrations that have been run. -/
  log : MigrationLog := {}
  /-- The migration that fails. -/
  failing : Option Nat := none
  /-- What the addresses start with that lead to this database. -/
  address : String := ""
  /-- Why the database refuses all links, if it does. -/
  refusal : Option String := none

namespace Script

/-- The text between the first pair of parentheses. -/
def parenthesised (cs : List Char) : List Char :=
  ((cs.dropWhile (· != '(')).drop 1).takeWhile (· != ')')

/-- The names of the columns that an insertion names, without quotes. -/
def columnsOf (text : String) : List String :=
  (Text.splitOnChar ',' (parenthesised text.toList)).map fun part =>
    Text.trim (String.ofList (part.filter (· != '"')))

/-- The row that consists of a statement's parameters. -/
def echoRow (s : Statement) : Row := (columnsOf s.text).zip s.parameters

/-- A value as it travels. -/
def travelled : Value → Value
  | .instant t => .ofInstant t
  | v => v

/-- The value of a cell in the reply to a statement. -/
def cellValue (s : Statement) : Cell → Value
  | .value v => travelled v
  | .parameter n => s.parameters.getD (n - 1) .null

/-- The reply to a statement. -/
def replyTo (s : Statement) : Prepared → Except Failure Reply
  | .rows rows =>
    let rows := rows.map fun row => row.map fun (column, cell) => (column, cellValue s cell)
    .ok ⟨rows, rows.length⟩
  | .echo => .ok ⟨[echoRow s], 1⟩
  | .affected n => .ok ⟨[], n⟩
  | .failure _ f => .error f

/-- The failure of a statement for which no reply is prepared. -/
def noReply : Failure := .refused none none "no reply"

/-- Note what is asked for. -/
def note (d : Script) (e : Entry) : Script := { d with entries := d.entries ++ [e] }

/-- Begin or end a transaction. -/
def reach (d : Script) (moment : Moment) : Except Failure Unit × Script :=
  match d.replies with
  | .failure m f :: replies =>
    if m = moment then (.error f, { d with replies }) else (.ok (), d)
  | _ => (.ok (), d)

/-- Run a statement. -/
def run (d : Script) (s : Statement) : Except Failure Reply × Script :=
  match d.replies with
  | [] => (.error noReply, d)
  | p :: replies => (replyTo s p, { d with replies })

/-- Make a link, if the settings lead to this database and leave room and time for a connection. -/
def connect (d : Script) (s : DatabaseSettings) : Except String Unit :=
  if !d.address.toList.isPrefixOf s.url.toList then .error "there is no such database"
  else if s.maxConnections = 0 ∨ s.connectTimeout = 0 then .error Failure.poolTimedOut.text
  else
    match d.refusal with
    | some reason => .error reason
    | none => .ok ()

/-- Answer what is asked for the sake of a link. -/
def answerLink (d : Script) : (r : Link) → r.Answer
  | .connect s => d.connect s
  | .disconnect => ()

/-- Answer a request. -/
def answer (d : Script) : (r : Request) → r.Answer × Script
  | .begin => (d.note .begin).reach .begin
  | .commit => (d.note .commit).reach .commit
  | .rollback => ((), d.note .rollback)
  | .run s => (d.note (.statement s)).run s
  | .migrationLog => (d.log, d)
  | .migrate m =>
    if d.failing = some m.version then
      (.error (.refused none none "migration failed"), d.note (.migrationFailed m.version))
    else (.ok (), d.note (.migrated m))

end Script

end SessionKeeper.Database
