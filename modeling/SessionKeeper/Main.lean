import SessionKeeper.Cli.Execution
import SessionKeeper.Daemon.Run

/-!
The two programs at the command line: the tool and, under a name that ends in "daemon", the daemon.
Here requests meet the world: files and variables are read, lines are printed. There is no way from
here to a database, so every link is refused, and nothing is ever asked of a database.
-/

namespace SessionKeeper.Main

/-! ### What settings are made from -/

/-- The variables that are read: those that choose documents, and one for each setting. -/
def variableNames : List String :=
  ["AUTHVAULT_CONFIG", "AUTHVAULT_ENV", "AUTHVAULT__DATABASE__URL",
    "AUTHVAULT__DATABASE__MAX_CONNECTIONS", "AUTHVAULT__DATABASE__MIN_CONNECTIONS",
    "AUTHVAULT__DATABASE__CONNECT_TIMEOUT_SECONDS", "AUTHVAULT__DATABASE__IDLE_TIMEOUT_SECONDS",
    "AUTHVAULT__TOKENS__REFRESH_TTL_SECONDS", "AUTHVAULT__TOKENS__ISSUANCE_POLICY",
    "AUTHVAULT__TOKENS__MAX_ISSUE_ATTEMPTS", "AUTHVAULT__CLEANUP__ENABLED",
    "AUTHVAULT__CLEANUP__SCHEDULE", "AUTHVAULT__CLEANUP__RETENTION_HOURS",
    "AUTHVAULT__CLEANUP__BATCH_SIZE", "AUTHVAULT__LOGGING__LEVEL", "AUTHVAULT__LOGGING__FORMAT"]

/-- The variables that are set. -/
def readVariables : IO (List (String × String)) :=
  variableNames.filterMapM fun name => do
    return (← IO.getEnv name).map fun text => (name, text)

/-- The text of the file at a path, if it can be read. -/
def readText? (path : String) : IO (Option String) := do
  try
    return some (← IO.FS.readFile path)
  catch _ =>
    return none

/-- What the settings of an environment are made from, with the documents in a folder. -/
def sourcesFor (assignments : List (String × String)) (dir env : String) :
    IO Config.Sources := do
  let paths := Config.candidates (dir ++ "/default") ++ Config.candidates (dir ++ "/" ++ env)
  let texts ← paths.filterMapM fun path => do
    return (← readText? path).map fun text => (path, text)
  return ⟨fun path => texts.lookup path, assignments⟩

/-! ### Requests -/

/-- The reason for which every link is refused. -/
def noWay : String := "there is no way to a database from here"

/-- Answer a request for the link. -/
def answerLink : (r : Database.Link) → IO r.Answer
  | .connect _ => return .error noWay
  | .disconnect => return ()

/-- Refuse a request that needs a database. -/
def refuse {α : Type} : IO α := throw (IO.userError noWay)

/-- Answer a request of the tool. -/
def answerTool : (r : Cli.Tool.signature.Request) → IO (Cli.Tool.signature.Answer r)
  | .inl r => answerLink r
  | .inr (.inr (.inr (.print text))) => IO.println text
  | .inr (.inr (.inl _)) => refuse
  | .inr (.inl _) => refuse

/-- An entry of the log on one line. -/
def logLine (asJson : Bool) (e : LogEntry) : String :=
  if asJson then e.toJson.compact
  else e.severity.label ++ " " ++ e.source ++ ": " ++ e.message

/-- Answer a request of the daemon. -/
def answerDaemon : (r : Daemon.signature.Request) → IO (Daemon.signature.Answer r)
  | .inl r => answerLink r
  | .inr (.inr (.log asJson e)) => IO.println (logLine asJson e)
  | .inr (.inr (.complain text)) => IO.eprintln text
  | .inr (.inr (.schedule _ _)) => refuse
  | .inr (.inr .unschedule) => refuse
  | .inr (.inr .awaitStop) => refuse
  | .inr (.inl _) => refuse

/-! ### The programs -/

/-- Run the tool on a command line. -/
def runTool (words : List String) : IO UInt32 := do
  let assignments ← readVariables
  let src ← match Cli.Invocation.read words with
    | .error _ => pure ⟨fun _ => none, assignments⟩
    | .ok i => sourcesFor assignments i.config (i.environmentIn ⟨fun _ => none, assignments⟩)
  let ending ← (Cli.Tool.start src words).run answerTool
  if let some text := ending.errorLine? then
    IO.eprintln text
  return ending.exitCode.toUInt32

/-- Run the daemon. -/
def runDaemon : IO UInt32 := do
  let assignments ← readVariables
  let bare : Config.Sources := ⟨fun _ => none, assignments⟩
  let src ← sourcesFor assignments (Daemon.folderIn bare) (Daemon.environmentIn bare)
  return (← (Daemon.start src).run answerDaemon).toUInt32

end SessionKeeper.Main

/-- Run the program under whose name this has been started. -/
def main (words : List String) : IO UInt32 := do
  if (← IO.appPath).toString.endsWith "daemon" then SessionKeeper.Main.runDaemon
  else SessionKeeper.Main.runTool words
