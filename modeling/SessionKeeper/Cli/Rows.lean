import SessionKeeper.Cli.Command
import SessionKeeper.Cli.Output
import SessionKeeper.Cli.Table
import SessionKeeper.Service.Cleanup
import SessionKeeper.Service.Tokens
import SessionKeeper.User

/-!
Results as rows of named fields, which are printed as tables or as JSON. Where there is no value a
hyphen stands, in both forms.
-/

namespace SessionKeeper.Cli

/-- The value of a field. -/
inductive Field where
  /-- A text. -/
  | text (s : String)
  /-- A truth value. -/
  | flag (b : Bool)
  /-- A number. -/
  | count (n : Nat)

namespace Field

/-- What stands in a table. -/
def cell : Field → String
  | text s => s
  | flag b => if b then "true" else "false"
  | count n => toString n

/-- What stands in JSON. -/
def toJson : Field → Json
  | text s => .str s
  | flag b => .bool b
  | count n => .int n

end Field

/-- A row of named fields. -/
abbrev Fields := List (String × Field)

namespace Fields

/-- The names of the fields. -/
def names (row : Fields) : List String := row.map (·.1)

/-- The cells of the row. -/
def cells (row : Fields) : List String := row.map fun (_, f) => f.cell

/-- The row as JSON. -/
def toJson (row : Fields) : Json := .obj (row.map fun (name, f) => (name, f.toJson))

end Fields

/-- One row in print. -/
def itemText (format : OutputFormat) (row : Fields) : String :=
  match format with
  | .table => "\n".intercalate (Table.lines row.names [row.cells])
  | .json => row.toJson.pretty

/-- A list of rows in print. -/
def listText (format : OutputFormat) (rows : List Fields) : String :=
  match format, rows with
  | .json, rows => (Json.array (rows.map Fields.toJson)).pretty
  | .table, [] => "No results found."
  | .table, row :: rows =>
    "\n".intercalate (Table.lines row.names ((row :: rows).map Fields.cells))

/-- An instant. -/
def instantField (t : Instant) : Field := .text t.toCell

/-- An instant that may be missing. -/
def instantField? (t : Option Instant) : Field := .text (instantOrAbsent t)

/-- A user. -/
def userRow (u : User) : Fields :=
  [("id", .text u.id.toText), ("name", .text u.name),
    ("image_url", .text (u.image.getD absent)), ("created_at", instantField u.createdAt),
    ("updated_at", instantField u.updatedAt)]

/-- A session. -/
def sessionRow (s : Session) : Fields :=
  [("id", .text s.id.toText), ("user_id", .text s.user.toText),
    ("jkt", .text (s.thumbprint.getD absent)), ("created_at", instantField s.createdAt),
    ("last_used_at", instantField? s.lastUsedAt), ("revoked_at", instantField? s.revokedAt)]

/-- A token, without its hash. -/
def tokenRow (t : Token) : Fields :=
  [("id", .text t.id.toText), ("session_id", .text t.session.toText),
    ("issued_at", instantField t.issuedAt), ("expires_at", instantField t.expiresAt),
    ("used_at", instantField? t.usedAt), ("revoked_at", instantField? t.revokedAt),
    ("replaced_by", .text (orAbsent Uuid.toText t.replacedBy))]

/-- What a presented token is. -/
def statusRow (s : TokenStatus) : Fields :=
  [("id", .text s.token.id.toText), ("session_id", .text s.token.session.toText),
    ("state", .text s.state.name), ("session_revoked", .flag s.sessionRevoked),
    ("usable", .flag s.isUsable)]

/-- What a cleanup cycle has done. -/
def reportRow (r : CleanupReport) : Fields :=
  [("cutoff", instantField r.cutoff), ("deleted", .count r.deleted), ("passes", .count r.passes)]

/-- Whether a token can be exchanged. -/
def validityText (format : OutputFormat) (valid : Bool) : String :=
  match format with
  | .json => if valid then "\x7b\"valid\":true\x7d" else "\x7b\"valid\":false\x7d"
  | .table => if valid then "valid" else "invalid"

end SessionKeeper.Cli
