import SessionKeeper.Cli.Command
import SessionKeeper.Cli.Run
import SessionKeeper.Config.Load
import SessionKeeper.Database.Link

/-!
The tool from start to end: it reads its command line, makes its settings, makes the link to the
database, does what it is asked for, and gives the link up whatever came of it.
-/

namespace SessionKeeper.Cli

/-- The name and version of the tool. -/
def versionLine : String := "authvault 0.1.0"

/-- The variable that names the environment if no option does. -/
def environmentVariable : String := "AUTHVAULT_ENV"

/-- The environment whose settings are used. -/
def Invocation.environmentIn (i : Invocation) (src : Config.Sources) : String :=
  (i.environment <|> src.variableText? environmentVariable).getD "production"

namespace Tool

/-- What the tool asks for. -/
def signature : Signature := Database.Link.signature.sum Cli.signature

/-- What the tool does. -/
abbrev Action (α : Type) := ExceptT Error (Prog signature) α

/-- Do what a command line asks for. -/
def execute (src : Config.Sources) (i : Invocation) : Action Unit := do
  let settings ← liftExcept (Settings.load src i.config (i.environmentIn src))
  Database.connect Cli.signature settings.database
  let context : Context := ⟨settings.tokens, settings.cleanup, i.format⟩
  let result ← ExceptT.lift (Prog.right (run context i.command).run)
  Database.disconnect Cli.signature
  liftExcept result

/-- How the tool ends. -/
inductive Ending where
  /-- It has done what it was asked for. -/
  | done
  /-- Its command line is refused, or has been answered at once. -/
  | usage (e : UsageError)
  /-- It has met an error. -/
  | failed (e : Error)

namespace Ending

/-- The exit code. -/
def exitCode : Ending → Nat
  | done => 0
  | usage .displayHelp => 0
  | usage .displayVersion => 0
  | usage _ => 2
  | failed _ => 1

/-- The line on the error stream. -/
def errorLine? : Ending → Option String
  | failed e => some (failureLine e.display)
  | _ => none

end Ending

/-- Run the tool on a command line. -/
def start (src : Config.Sources) (words : List String) : Prog signature Ending := do
  match Invocation.read words with
  | .error e =>
    if e = .displayVersion then
      let _ ← (Prog.right (print versionLine).run : Prog signature (Except Error Unit))
    return .usage e
  | .ok i =>
    match ← (execute src i).run with
    | .ok () => return .done
    | .error e => return .failed e

end Tool

end SessionKeeper.Cli
