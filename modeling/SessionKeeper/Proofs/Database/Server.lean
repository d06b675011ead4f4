import SessionKeeper.Database.Schema
import SessionKeeper.Proofs.Database.Statements
import SessionKeeper.Proofs.Database.Trace
import SessionKeeper.Proofs.Execution

/-!
# A database that keeps rows

The database of which the tables of sessions and tokens are kept. The statements by which tokens are
issued and exchanged are read as commands (`commands`), and commands are carried out on the rows
column by column. A token is entered only if the rules of its table are kept (`tokenRules`); that a
token that replaces another is there is looked at when a transaction is committed. A transaction
that is not committed leaves the rows as they were when it was begun.
-/

namespace SessionKeeper.Database

/-! ## Commands -/

/-- The tables that are kept. -/
inductive Table where
  | sessions
  | tokens
deriving DecidableEq

/-- What a row has to satisfy: that a column holds a parameter, counted from 1, or nothing. -/
inductive Condition where
  | equals (column : String) (parameter : Nat)
  | isNull (column : String)
deriving DecidableEq

/-- What a column is set to. -/
inductive Source where
  | parameter (n : Nat)
  /-- What the column holds, or a parameter if it holds nothing. -/
  | coalesce (n : Nat)
deriving DecidableEq

/-- What a statement asks for. -/
inductive Command where
  /-- Give the rows that meet the conditions, cut down to one column if it is named. -/
  | select (column : Option String) (table : Table) (conditions : List Condition)
  /-- Change the rows that meet the conditions, and give them if that is asked for. -/
  | update (table : Table) (changes : List (String × Source)) (conditions : List Condition)
      (returning : Bool)
  /-- Enter a token that consists of the parameters, and give it. -/
  | insertToken
deriving DecidableEq

/-- What the statements ask for. -/
def commands : List (String × Command) :=
  [("SELECT session_id FROM refresh_tokens WHERE token_hash = $1",
      .select (some "session_id") .tokens [.equals "token_hash" 1]),
    ("SELECT * FROM auth_sessions WHERE id = $1 FOR UPDATE",
      .select none .sessions [.equals "id" 1]),
    ("SELECT * FROM refresh_tokens WHERE token_hash = $1 FOR UPDATE",
      .select none .tokens [.equals "token_hash" 1]),
    ("SELECT id FROM refresh_tokens WHERE session_id = $1 AND revoked_at IS NULL AND " ++
        "replaced_by IS NULL FOR UPDATE",
      .select (some "id") .tokens
        [.equals "session_id" 1, .isNull "revoked_at", .isNull "replaced_by"]),
    ("UPDATE auth_sessions SET revoked_at = COALESCE(revoked_at, $2) WHERE id = $1",
      .update .sessions [("revoked_at", .coalesce 2)] [.equals "id" 1] false),
    ("UPDATE refresh_tokens SET revoked_at = $2 WHERE session_id = $1 AND revoked_at IS NULL",
      .update .tokens [("revoked_at", .parameter 2)] [.equals "session_id" 1, .isNull "revoked_at"]
        false),
    ("UPDATE refresh_tokens SET revoked_at = $2 WHERE id = $1",
      .update .tokens [("revoked_at", .parameter 2)] [.equals "id" 1] false),
    ("UPDATE refresh_tokens SET used_at = $2, replaced_by = $3 WHERE id = $1 RETURNING *",
      .update .tokens [("used_at", .parameter 2), ("replaced_by", .parameter 3)] [.equals "id" 1]
        true),
    ("INSERT INTO refresh_tokens (id, session_id, token_hash, issued_at, expires_at, used_at, " ++
        "revoked_at, replaced_by) VALUES ($1, $2, $3, $4, $5, $6, $7, $8) RETURNING *",
      .insertToken),
    ("UPDATE auth_sessions SET last_used_at = $2 WHERE id = $1 RETURNING *",
      .update .sessions [("last_used_at", .parameter 2)] [.equals "id" 1] true)]

namespace Statement

/-- What a statement asks for. -/
def command? (s : Statement) : Option Command := commands.lookup s.text

theorem ne_of_command? {s s' : Statement} (h : s.command? ≠ s'.command?) : s ≠ s' := by
  rintro rfl
  exact h rfl

section

variable (id session : Uuid) (hash : Hash) (now : Instant)

@[simp] theorem command?_sessionOf :
    (sessionOf hash).command? =
      some (.select (some "session_id") .tokens [.equals "token_hash" 1]) := rfl

@[simp] theorem command?_lockSession :
    (lockSession id).command? = some (.select none .sessions [.equals "id" 1]) := rfl

@[simp] theorem command?_lockToken :
    (lockToken hash).command? = some (.select none .tokens [.equals "token_hash" 1]) := rfl

@[simp] theorem command?_lockCurrent :
    (lockCurrent session).command? = some (.select (some "id") .tokens
      [.equals "session_id" 1, .isNull "revoked_at", .isNull "replaced_by"]) := rfl

@[simp] theorem command?_revokeSession :
    (revokeSession id now).command? =
      some (.update .sessions [("revoked_at", .coalesce 2)] [.equals "id" 1] false) := rfl

@[simp] theorem command?_revokeTokens :
    (revokeTokens session now).command? = some (.update .tokens [("revoked_at", .parameter 2)]
      [.equals "session_id" 1, .isNull "revoked_at"] false) := rfl

@[simp] theorem command?_supersede :
    (supersede id now).command? =
      some (.update .tokens [("revoked_at", .parameter 2)] [.equals "id" 1] false) := rfl

@[simp] theorem command?_consume (next : Uuid) :
    (consume id next now).command? =
      some (.update .tokens [("used_at", .parameter 2), ("replaced_by", .parameter 3)]
        [.equals "id" 1] true) := rfl

@[simp] theorem command?_insertToken (t : Token) :
    (insertToken t).command? = some .insertToken := by
  have htext : commands.lookup
      ("INSERT INTO refresh_tokens (id, session_id, token_hash, issued_at, expires_at, used_at, " ++
        "revoked_at, replaced_by) VALUES ($1, $2, $3, $4, $5, $6, $7, $8) RETURNING *") =
      some .insertToken := by
    decide +kernel
  exact htext

@[simp] theorem command?_touchSession :
    (touchSession id now).command? =
      some (.update .sessions [("last_used_at", .parameter 2)] [.equals "id" 1] true) := rfl

end

end Statement

/-- A parameter of a statement by its number, counted from 1. One that is not given is nothing. -/
def parameter (parameters : List Value) (n : Nat) : Value := parameters.getD (n - 1) .null

/-- Whether a row meets a condition. Nothing is not equal to nothing. -/
def Condition.holds (parameters : List Value) (row : Row) : Condition → Bool
  | equals column n =>
    parameter parameters n != .null && row.lookup column == some (parameter parameters n)
  | isNull column => row.lookup column == some .null

/-- Whether a row meets all conditions. -/
def meets (parameters : List Value) (conditions : List Condition) (row : Row) : Bool :=
  conditions.all fun c => c.holds parameters row

/-- What a column is set to, which has held `old`. -/
def Source.value (parameters : List Value) (old : Value) : Source → Value
  | parameter n => Database.parameter parameters n
  | coalesce n => if old = .null then Database.parameter parameters n else old

/-- A row after the columns named by the changes have been set, and no others. -/
def change (parameters : List Value) (changes : List (String × Source)) (row : Row) : Row :=
  row.map fun (column, old) =>
    (column, ((changes.lookup column).map fun s => s.value parameters old).getD old)

/-- A row, or the part of it that is one column. -/
def project (row : Row) : Option String → Row
  | none => row
  | some column => row.filter fun (c, _) => c == column

/-! ## Rules -/

/-- The rows of the tables. -/
structure Tables where
  sessions : List Row := []
  tokens : List Row := []
deriving DecidableEq

namespace Tables

/-- The rows of a table. -/
def rows (d : Tables) : Table → List Row
  | .sessions => d.sessions
  | .tokens => d.tokens

/-- Change the rows of a table. -/
def modify (d : Tables) (f : List Row → List Row) : Table → Tables
  | .sessions => { d with sessions := f d.sessions }
  | .tokens => { d with tokens := f d.tokens }

end Tables

/-- What a new row has to observe. -/
inductive Rule where
  | check (name : String) (holds : Row → Bool)
  /-- If the row meets the conditions, then no other row that meets them agrees with it in the
  columns. -/
  | unique (name : String) (columns : List String) (conditions : List Condition)
  | reference (name column : String) (table : Table)

/-- Whether a row observes a rule. -/
def Rule.observed (d : Tables) (row : Row) : Rule → Bool
  | check _ holds => holds row
  | unique _ columns conditions =>
    !(meets [] conditions row && d.tokens.any fun other =>
      meets [] conditions other && columns.all fun c => other.lookup c == row.lookup c)
  | reference _ column table =>
    (d.rows table).any fun other => other.lookup "id" == row.lookup column

/-- How an insertion fails that breaks a rule. -/
def Rule.failure : Rule → Failure
  | check name _ => .refused (some Failure.checkViolation) (some name)
    ("new row for relation \"refresh_tokens\" violates check constraint \"" ++ name ++ "\"")
  | unique name _ _ => .refused (some Failure.uniqueViolation) (some name)
    ("duplicate key value violates unique constraint \"" ++ name ++ "\"")
  | reference name _ _ => .refused (some Failure.foreignKeyViolation) (some name)
    ("insert or update on table \"refresh_tokens\" violates foreign key constraint \"" ++ name ++
      "\"")

/-- A token is not replaced by itself. -/
def replacesAnother (row : Row) : Bool :=
  row.lookup "replaced_by" == some .null || row.lookup "replaced_by" != row.lookup "id"

/-- A token ends after it was issued. -/
def expiresAfterIssue (row : Row) : Bool :=
  match row.lookup "issued_at", row.lookup "expires_at" with
  | some (.instant issued), some (.instant expires) => decide (issued < expires)
  | _, _ => false

/-- The hash of a token has 32 bytes. -/
def hashHasLength (row : Row) : Bool :=
  match row.lookup "token_hash" with
  | some (.bytes hash) => hash.length == 32
  | _ => false

/-- The rules for tokens. -/
def tokenRules : List Rule :=
  [.check "refresh_tokens_not_self_replaced" replacesAnother,
    .check "refresh_tokens_expires_after_issue" expiresAfterIssue,
    .check "refresh_tokens_hash_length" hashHasLength,
    .unique "refresh_tokens_pkey" ["id"] [],
    .unique Failure.hashIsUnique ["token_hash"] [],
    .unique Failure.oneCurrentPerSession ["session_id"]
      [.isNull "revoked_at", .isNull "replaced_by"],
    .reference "refresh_tokens_session_id_fkey" "session_id" .sessions]

/-- The rule that is looked at when a transaction is committed. -/
def replacementRule : Rule := .reference Failure.replacementExists "replaced_by" .tokens

/-! ## Statements -/

namespace Tables

/-- The first rule that a new token breaks. -/
def broken? (d : Tables) (row : Row) : Option Rule :=
  tokenRules.find? fun r => !r.observed d row

/-- Carry out a command: what it gives, and the rows after it. -/
def exec (d : Tables) (parameters : List Value) : Command → Except Failure (Reply × Tables)
  | .select column table conditions =>
    let found := (d.rows table).filter (meets parameters conditions)
    .ok (⟨found.map (project · column), found.length⟩, d)
  | .update table changes conditions returning =>
    let found := (d.rows table).filter (meets parameters conditions)
    let changed := d.modify (fun rows => rows.map fun row =>
      if meets parameters conditions row then change parameters changes row else row) table
    .ok (⟨if returning then found.map (change parameters changes) else [], found.length⟩, changed)
  | .insertToken =>
    let row := (Schema.tokens.map Prod.fst).zip parameters
    match d.broken? row with
    | some rule => .error rule.failure
    | none => .ok (⟨[row], 1⟩, { d with tokens := d.tokens ++ [row] })

/-- A statement that is not among the known ones. -/
def unknownStatement : Failure := .refused (some "42601") none "syntax error"

/-- Run a statement on the rows, by its text. -/
def run (d : Tables) (s : Statement) : Except Failure (Reply × Tables) :=
  match commands.lookup s.text with
  | some c => d.exec s.parameters c
  | none => .error unknownStatement

theorem run_eq {d : Tables} {s : Statement} {c : Command} (h : s.command? = some c) :
    d.run s = d.exec s.parameters c := by
  rw [run, show commands.lookup s.text = some c from h]

-- The reference is deferred: a token names its replacement before that is entered.
def replacementsExist (d : Tables) : Bool :=
  d.tokens.all fun row =>
    row.lookup "replaced_by" == some .null || replacementRule.observed d row

end Tables

/-! ## Transactions -/

/-- A database. -/
structure Server where
  tables : Tables
  /-- The rows as they were when the transaction was begun, if one is open. -/
  before : Option Tables := none
deriving DecidableEq

namespace Server

variable {α β : Type} {d d' : Server}

/-- End the transaction with the rows as they were when it was begun. -/
def rollback (d : Server) : Server := ⟨d.before.getD d.tables, none⟩

/-- End the transaction with the rows as they are, if all replacements are there. -/
def commit (d : Server) : Except Failure Unit × Server :=
  if d.tables.replacementsExist then (.ok (), ⟨d.tables, none⟩)
  else (.error replacementRule.failure, d.rollback)

/-- Run a statement. One that fails changes nothing. -/
def run (d : Server) (s : Statement) : Except Failure Reply × Server :=
  match d.tables.run s with
  | .ok (reply, tables) => (.ok reply, { d with tables })
  | .error f => (.error f, d)

/-- Serve the requests of a client. Of migrations nothing is kept. -/
def answer : (r : signature.Request) → StateM Server (signature.Answer r)
  | .begin => modifyGet fun d => (.ok (), ⟨d.tables, some d.tables⟩)
  | .commit => modifyGet commit
  | .rollback => modifyGet fun d => ((), d.rollback)
  | .run s => modifyGet fun d => d.run s
  | .migrationLog => pure {}
  | .migrate _ => pure (.ok ())

/-- Carry out an operation of a client. -/
def perform (d : Server) (x : Action α) : Except Error α × Server := (x.run.run answer).run d

/-! ## Laws -/

theorem perform_bind_ok {x : Action α} {a : α} (h : d.perform x = (.ok a, d'))
    (f : α → Action β) : d.perform (x >>= f) = d'.perform (f a) := execute_bind_ok h f

theorem perform_bind_error {x : Action α} {e : Error} (h : d.perform x = (.error e, d'))
    (f : α → Action β) : d.perform (x >>= f) = (.error e, d') := execute_bind_error h f

@[simp] theorem perform_pure (d : Server) (a : α) :
    d.perform (pure a : Action α) = (.ok a, d) := rfl

@[simp] theorem perform_throw (d : Server) (e : Error) :
    d.perform (throw e : Action α) = (.error e, d) := rfl

theorem perform_stopped {c : Prop} [Decidable c] (hc : c) (e : Error) (f : Unit → Action α) :
    d.perform (if c then throw e >>= f else f () : Action α) = (.error e, d) := by
  rw [if_pos hc]
  rfl

theorem perform_unless {c : Prop} [Decidable c] (hc : ¬c) (e : Error) (f : Unit → Action α) :
    d.perform (if c then throw e >>= f else f () : Action α) = d.perform (f ()) := by
  rw [if_neg hc]

@[simp] theorem perform_liftExcept (d : Server) (x : Except Error α) :
    d.perform (liftExcept x : Action α) = (x, d) := execute_liftExcept x d

section

variable {s : Statement} {reply : Reply} {tables : Tables} {f : Failure}

theorem perform_run (h : d.tables.run s = .ok (reply, tables)) (step : String) :
    d.perform (Database.run step s) = (.ok reply, { d with tables }) := by
  change (orFail step (d.run s).1, (d.run s).2) = _
  simp only [run, h, orFail]

theorem perform_run_error (h : d.tables.run s = .error f) (step : String) :
    d.perform (Database.run step s) = (.error (f.toError step), d) := by
  change (orFail step (d.run s).1, (d.run s).2) = _
  simp only [run, h, orFail]

theorem perform_execute (h : d.tables.run s = .ok (reply, tables)) (step : String) :
    d.perform (execute step s) = (.ok reply.affected, { d with tables }) := by
  rw [execute, perform_bind_ok (perform_run h step), perform_pure]

/-- At most one row is found, and it is read. -/
theorem perform_fetchOptional {found : Option β} {row : β → Row} {reader : Reader α} {a : β → α}
    {n : Nat} (h : d.tables.run s = .ok (⟨found.toList.map row, n⟩, tables))
    (hread : ∀ b, found = some b → reader (row b) = .ok (a b)) (step : String) :
    d.perform (fetchOptional step reader s) = (.ok (found.map a), { d with tables }) := by
  rw [fetchOptional, perform_bind_ok (perform_run h step)]
  cases found with
  | none => rfl
  | some b =>
    simp only [Option.toList_some, List.map_cons, hread b rfl, orFail]
    rw [perform_bind_ok (perform_liftExcept _ _), perform_pure]
    rfl

theorem perform_fetchOne {reader : Reader α} {row : Row} {a : α}
    (h : d.tables.run s = .ok (reply, tables)) (hrows : reply.rows = [row])
    (hread : reader row = .ok a) (step : String) :
    d.perform (fetchOne step reader s) = (.ok a, { d with tables }) := by
  rw [fetchOne, perform_bind_ok (perform_run h step), hrows]
  simp only [hread, orFail, perform_liftExcept]

theorem perform_fetchOne_error (h : d.tables.run s = .error f) (step : String)
    (reader : Reader α) : d.perform (fetchOne step reader s) = (.error (f.toError step), d) := by
  rw [fetchOne, perform_bind_error (perform_run_error h step)]

end

/-- The database after a transaction has been begun. -/
def opened (d : Server) : Server := ⟨d.tables, some d.tables⟩

@[simp] theorem perform_abandon (d : Server) (e : Error) :
    d.perform (abandon e : Action α) = (.error e, d.rollback) := rfl

theorem perform_conclude (d : Server) (v : Verdict α) :
    d.perform (conclude v) = match d.commit with
      | (.ok _, d') => (v.result, d')
      | (.error f, d') => (.error (f.toError v.step), d'.rollback) := by
  have hcommit : d.perform (ExceptT.lift (ask .commit)) = (.ok d.commit.1, d.commit.2) := rfl
  rw [conclude, perform_bind_ok hcommit]
  obtain ⟨a, d'⟩ := d.commit
  cases a with
  | ok a => simp only [orFail, perform_liftExcept]
  | error f => simp only [orFail, perform_abandon]

theorem perform_transaction (d : Server) (body : Action (Verdict α)) :
    d.perform (transaction body) = match d.opened.perform body with
      | (.ok v, d') => d'.perform (conclude v)
      | (.error e, d') => d'.perform (abandon e) := by
  unfold perform
  rw [transaction_run]
  change ((body.run.bind _).run answer).run d.opened = _
  rw [Prog.run_bind, StateT.run_bind]
  obtain ⟨x, d'⟩ := (body.run.run answer).run d.opened
  cases x <;> rfl

end Server

end SessionKeeper.Database
