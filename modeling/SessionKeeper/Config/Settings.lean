import SessionKeeper.Error
import SessionKeeper.Instant
import SessionKeeper.Json.Decode
import SessionKeeper.Text.Blank

/-!
Settings: their parts, their defaults, and what makes them acceptable. Only the database's address
has no default. Whatever is read, the rules on it are the same, so that a service started with
accepted settings meets no range error later.
-/

namespace SessionKeeper

/-- What happens when a session that holds a current token asks for a first one again. -/
inductive IssuePolicy where
  /-- The request is refused. -/
  | reject
  /-- The current token is revoked and a new one takes its place. -/
  | supersede
deriving DecidableEq, Repr

namespace IssuePolicy

/-- The name of a policy. -/
def name : IssuePolicy → String
  | .reject => "reject"
  | .supersede => "supersede"

/-- The policy with the given name. -/
def ofName? : String → Option IssuePolicy
  | "reject" => some .reject
  | "supersede" => some .supersede
  | _ => none

end IssuePolicy

/-- How to reach the database. -/
structure DatabaseSettings where
  /-- Its address. -/
  url : String
  /-- The greatest number of connections held open. -/
  maxConnections : Nat := 20
  /-- The least number of connections held open. -/
  minConnections : Nat := 2
  /-- Seconds to wait for a connection. -/
  connectTimeout : Nat := 10
  /-- Seconds after which an unused connection is closed. -/
  idleTimeout : Nat := 300
deriving DecidableEq, Repr

/-- How refresh tokens are issued. -/
structure TokenSettings where
  /-- How long a token lives, in seconds. -/
  lifetimeSeconds : Int := 30 * 24 * 60 * 60
  /-- What happens to a current token. -/
  policy : IssuePolicy := .reject
  /-- How often a token is made anew when its hash is already stored. -/
  maxAttempts : Nat := 3
deriving DecidableEq, Repr

/-- How expired tokens are deleted. -/
structure CleanupSettings where
  /-- Whether they are deleted at all. -/
  enabled : Bool := true
  /-- When they are. -/
  schedule : String := "0 */15 * * * *"
  /-- How many hours they are kept. -/
  retentionHours : Int := 168
  /-- How many are deleted at a time. -/
  batchSize : Int := 10000
deriving DecidableEq, Repr

/-- What is logged, and how. -/
structure LogSettings where
  /-- The least severity, or a list of them for the parts of the program. -/
  level : String := "info"
  /-- The form of a log entry. -/
  format : String := "json"
deriving DecidableEq, Repr

/-- All settings. -/
structure Settings where
  /-- How to reach the database. -/
  database : DatabaseSettings
  /-- How refresh tokens are issued. -/
  tokens : TokenSettings := {}
  /-- How expired tokens are deleted. -/
  cleanup : CleanupSettings := {}
  /-- What is logged. -/
  logging : LogSettings := {}
deriving DecidableEq, Repr

/-- A setting that is not acceptable. -/
def Error.setting (message : String) : Error := .plain .configuration message

namespace TokenSettings

/-- The longest lifetime of a token, in seconds: ten years of 365 days. -/
def maxLifetimeSeconds : Int := 10 * 365 * 24 * 60 * 60

/-- The lifetime of a token, if it is 1 second to ten years. -/
def lifetime (s : TokenSettings) : Except Error Span :=
  if 1 ≤ s.lifetimeSeconds ∧ s.lifetimeSeconds ≤ maxLifetimeSeconds then
    .ok (.ofSeconds s.lifetimeSeconds)
  else
    .error (.setting
      ("tokens.refresh_ttl_seconds must be between 1 and " ++ toString maxLifetimeSeconds))

theorem kind_of_lifetime_error {s : TokenSettings} {e : Error} (h : s.lifetime = .error e) :
    e.kind = .configuration := by
  unfold TokenSettings.lifetime at h
  split at h
  · cases h
  · cases h
    rfl

/-- Every lifetime that the settings allow is positive. -/
theorem isPositive_of_lifetime {s : TokenSettings} {lifetime : Span}
    (h : s.lifetime = .ok lifetime) : lifetime.isPositive = true := by
  unfold TokenSettings.lifetime at h
  split at h
  · cases h
    have hpositive : 0 < s.lifetimeSeconds * 1000000000 := by omega
    exact decide_eq_true hpositive
  · cases h

end TokenSettings

namespace CleanupSettings

/-- The longest time for which expired tokens are kept, in hours: ten years of 365 days. -/
def maxRetentionHours : Int := 10 * 365 * 24

/-- How long expired tokens are kept, if it is nothing to ten years. -/
def retention (s : CleanupSettings) : Except Error Span :=
  if 0 ≤ s.retentionHours ∧ s.retentionHours ≤ maxRetentionHours then
    .ok (.ofHours s.retentionHours)
  else
    .error (.setting
      ("cleanup.retention_hours must be between 0 and " ++ toString maxRetentionHours))

/-- The number of tokens to delete at a time, if it is one at least. -/
def budget (s : CleanupSettings) : Except Error Int :=
  if s.batchSize < 1 then .error (.setting "cleanup.batch_size must be at least 1")
  else .ok s.batchSize

end CleanupSettings

namespace LogSettings

/-- Whether log entries are JSON. -/
def isJson (s : LogSettings) : Bool := Text.lowerAscii s.format == "json"

end LogSettings

namespace Settings

/-- Accept settings that keep to the rules, of which the first broken one is reported. -/
def validate (s : Settings) : Except Error Unit := do
  if Text.allBlank s.database.url then
    throw (.setting "database.url must not be empty")
  if s.database.maxConnections < s.database.minConnections then
    throw (.setting "database.min_connections exceeds database.max_connections")
  let _ ← s.tokens.lifetime
  if s.tokens.maxAttempts = 0 then
    throw (.setting "tokens.max_issue_attempts must be at least 1")
  let _ ← s.cleanup.budget
  let _ ← s.cleanup.retention

end Settings

/-! ### Reading -/

section Reading

variable {V : Type}

/-- Read how to reach the database. -/
def DatabaseSettings.read? (f : Format V) (v : V) : Option DatabaseSettings := do
  let slots ← f.record? ["url", "max_connections", "min_connections", "connect_timeout_seconds",
    "idle_timeout_seconds"] v
  let url ← (slots "url").required f.text?
  let maxConnections ← (slots "max_connections").withDefault 20 (f.natBelow? UInt32.size)
  let minConnections ← (slots "min_connections").withDefault 2 (f.natBelow? UInt32.size)
  let connectTimeout ← (slots "connect_timeout_seconds").withDefault 10 (f.natBelow? UInt64.size)
  let idleTimeout ← (slots "idle_timeout_seconds").withDefault 300 (f.natBelow? UInt64.size)
  some ⟨url, maxConnections, minConnections, connectTimeout, idleTimeout⟩

/-- Read how refresh tokens are issued. -/
def TokenSettings.read? (f : Format V) (v : V) : Option TokenSettings := do
  let base : TokenSettings := {}
  let slots ← f.record? ["refresh_ttl_seconds", "issuance_policy", "max_issue_attempts"] v
  let lifetimeSeconds ← (slots "refresh_ttl_seconds").withDefault base.lifetimeSeconds f.int64?
  let policy ← (slots "issuance_policy").withDefault base.policy fun v =>
    (f.caseName? v).bind IssuePolicy.ofName?
  let maxAttempts ←
    (slots "max_issue_attempts").withDefault base.maxAttempts (f.natBelow? UInt32.size)
  some ⟨lifetimeSeconds, policy, maxAttempts⟩

/-- Read how expired tokens are deleted. -/
def CleanupSettings.read? (f : Format V) (v : V) : Option CleanupSettings := do
  let base : CleanupSettings := {}
  let slots ← f.record? ["enabled", "schedule", "retention_hours", "batch_size"] v
  let enabled ← (slots "enabled").withDefault base.enabled f.flag?
  let schedule ← (slots "schedule").withDefault base.schedule f.text?
  let retentionHours ← (slots "retention_hours").withDefault base.retentionHours f.int64?
  let batchSize ← (slots "batch_size").withDefault base.batchSize f.int64?
  some ⟨enabled, schedule, retentionHours, batchSize⟩

/-- Read what is logged. -/
def LogSettings.read? (f : Format V) (v : V) : Option LogSettings := do
  let base : LogSettings := {}
  let slots ← f.record? ["level", "format"] v
  let level ← (slots "level").withDefault base.level f.text?
  let format ← (slots "format").withDefault base.format f.text?
  some ⟨level, format⟩

/-- Read all settings; a part that is not given has its defaults. -/
def Settings.read? (f : Format V) (v : V) : Option Settings := do
  let slots ← f.record? ["database", "tokens", "cleanup", "logging"] v
  let database ← (slots "database").required (DatabaseSettings.read? f)
  let tokens ← (slots "tokens").withDefault {} (TokenSettings.read? f)
  let cleanup ← (slots "cleanup").withDefault {} (CleanupSettings.read? f)
  let logging ← (slots "logging").withDefault {} (LogSettings.read? f)
  some ⟨database, tokens, cleanup, logging⟩

end Reading

/-- JSON takes values of exactly the type that is asked for. -/
def Json.format : Format Json :=
  { record? := Json.slots?
    text? := Json.toString?
    flag? := Json.toBool?
    int64? := Json.toInt64?
    natBelow? := Json.toNatBelow?
    caseName? := Json.toCase? some }

/-! ### Writing -/

/-- How to reach the database, as JSON. -/
def DatabaseSettings.toJson (s : DatabaseSettings) : Json :=
  .obj [("url", .str s.url), ("max_connections", .int s.maxConnections),
    ("min_connections", .int s.minConnections),
    ("connect_timeout_seconds", .int s.connectTimeout),
    ("idle_timeout_seconds", .int s.idleTimeout)]

/-- How refresh tokens are issued, as JSON. -/
def TokenSettings.toJson (s : TokenSettings) : Json :=
  .obj [("refresh_ttl_seconds", .int s.lifetimeSeconds), ("issuance_policy", .str s.policy.name),
    ("max_issue_attempts", .int s.maxAttempts)]

/-- How expired tokens are deleted, as JSON. -/
def CleanupSettings.toJson (s : CleanupSettings) : Json :=
  .obj [("enabled", .bool s.enabled), ("schedule", .str s.schedule),
    ("retention_hours", .int s.retentionHours), ("batch_size", .int s.batchSize)]

/-- What is logged, as JSON. -/
def LogSettings.toJson (s : LogSettings) : Json :=
  .obj [("level", .str s.level), ("format", .str s.format)]

/-- All settings as JSON. -/
def Settings.toJson (s : Settings) : Json :=
  .obj [("database", s.database.toJson), ("tokens", s.tokens.toJson),
    ("cleanup", s.cleanup.toJson), ("logging", s.logging.toJson)]

end SessionKeeper
