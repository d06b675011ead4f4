import SessionKeeper.Config.Load
import SessionKeeper.Database.Address
import SessionKeeper.Database.Link
import SessionKeeper.Database.Migrations
import SessionKeeper.Log
import SessionKeeper.Schedule

/-!
The daemon from start to end: it makes its settings and the link to the database, brings the
database up to date, sets up the cleanup on its schedule, and then waits to be told to stop. It
tells the log what it does. An error ends it at once.
-/

namespace SessionKeeper.Daemon

/-! ### What the daemon asks for -/

/-- What the daemon asks for besides the database. -/
inductive Desk where
  /-- Put an entry into the log, as JSON or in a form for people. -/
  | log (asJson : Bool) (e : LogEntry)
  /-- Write a line to the error stream. -/
  | complain (line : String)
  /-- Have the cleanup run on a schedule. -/
  | schedule (times : Schedule) (s : CleanupSettings)
  /-- Have the cleanup run no more. -/
  | unschedule
  /-- Wait to be told to stop. -/
  | awaitStop

/-- Programs that ask for these. -/
def Desk.signature : Signature := ⟨Desk, fun _ => Unit⟩

/-- What the daemon does with a database. -/
def client : Signature := Database.signature.sum Desk.signature

/-- What the daemon asks for. -/
def signature : Signature := Database.Link.signature.sum client

/-- What the daemon does. -/
abbrev Action (α : Type) := ExceptT Error (Prog signature) α

/-- Ask the desk. -/
def desk (r : Desk) : Prog signature Unit :=
  Prog.right (Prog.requestRight Database.signature Desk.signature r)

/-- An operation on the database. -/
def database {α : Type} (a : Database.Action α) : Action α :=
  ExceptT.mk (Prog.right (Prog.left a.run))

/-! ### The log -/

/-- The parts of the program that entries come from. -/
inductive Part where
  /-- The daemon itself. -/
  | daemon
  /-- The link to the database. -/
  | connection
  /-- The migrations. -/
  | migration
  /-- The schedule. -/
  | scheduler

/-- The name of a part. -/
def Part.name : Part → String
  | .daemon => "authvault_daemon"
  | .connection => "authvault_database::connection"
  | .migration => "authvault_database::migration"
  | .scheduler => "authvault_worker::scheduler"

/-- Put an entry into the log, if it is one that is shown. -/
def tell (s : LogSettings) (severity : Severity) (part : Part) (message : String)
    (fields : List (String × Json)) : Prog signature Unit :=
  let e : LogEntry := ⟨severity, part.name, message, fields⟩
  if s.shows e then desk (.log s.isJson e) else pure ()

/-- Put an entry about something that has happened into the log. -/
def note (s : LogSettings) (part : Part) (message : String)
    (fields : List (String × Json)) : Action Unit :=
  ExceptT.lift (tell s .info part message fields)

/-! ### Start and stop -/

/-- The version of the daemon. -/
def version : String := "0.1.0"

/-- Make the link to the database. -/
def connect (s : Settings) : Action Unit := do
  note s.logging .connection "Connecting to PostgreSQL"
    [("url", .str (Database.Address.mask s.database.url)),
      ("max_connections", .int s.database.maxConnections),
      ("min_connections", .int s.database.minConnections)]
  Database.connect client s.database
  note s.logging .connection "Connected to PostgreSQL" []

/-- Bring the database up to date. -/
def migrate (s : Settings) : Action Unit := do
  note s.logging .daemon "Running database migrations..." []
  note s.logging .migration "Running database migrations..." []
  database Database.Migrations.run
  note s.logging .migration "Database migrations completed successfully" []

/-- Set up the cleanup. -/
def startCleanup (s : Settings) : Action Unit := do
  if s.cleanup.enabled then
    match Schedule.ofText? s.cleanup.schedule with
    | none => throw (Schedule.invalidError s.cleanup.schedule)
    | some times =>
      note s.logging .scheduler "Registered: token_cleanup" [("schedule", .str s.cleanup.schedule)]
      ExceptT.lift (desk (.schedule times s.cleanup))
      note s.logging .scheduler "Cron scheduler started" []
  else ExceptT.lift (tell s.logging .warn .daemon "Refresh token cleanup is disabled" [])

/-- Take the cleanup down. -/
def stopCleanup (s : Settings) : Action Unit := do
  if s.cleanup.enabled then
    ExceptT.lift (desk .unschedule)
    note s.logging .scheduler "Cron scheduler shut down" []

/-- Run until told to stop. -/
def run (s : Settings) : Action Unit := do
  note s.logging .daemon ("Starting AuthVault v" ++ version) []
  connect s
  migrate s
  startCleanup s
  note s.logging .daemon "AuthVault daemon ready" []
  ExceptT.lift (desk .awaitStop)
  note s.logging .daemon "Shutdown signal received" []
  stopCleanup s
  Database.disconnect client
  note s.logging .connection "Database pool closed" []
  note s.logging .daemon "AuthVault daemon stopped" []

/-- The folder that the settings of the daemon are in. -/
def folderIn (src : Config.Sources) : String :=
  (src.variableText? "AUTHVAULT_CONFIG").getD "config"

/-- The environment whose settings the daemon uses. -/
def environmentIn (src : Config.Sources) : String :=
  (src.variableText? "AUTHVAULT_ENV").getD "development"

/-- The settings of the daemon. Variables name the folder and the environment. -/
def loadSettings (src : Config.Sources) : Except Error Settings :=
  Settings.load src (folderIn src) (environmentIn src)

/-- Run the daemon; the result is its exit code. -/
def start (src : Config.Sources) : Prog signature Nat := do
  match loadSettings src with
  | .error e =>
    desk (.complain ("Failed to load configuration: " ++ e.display))
    return 1
  | .ok s =>
    match ← (run s).run with
    | .ok () => return 0
    | .error e =>
      tell s.logging .error .daemon "Daemon error" [("error", .str e.display)]
      return 1

end SessionKeeper.Daemon
