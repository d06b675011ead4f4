import SessionKeeper.Cli.Grammar
import SessionKeeper.Json

/-!
The commands of the tool, and how they are read off a command line.
-/

namespace SessionKeeper.Cli

/-- How results are printed. -/
inductive OutputFormat where
  /-- As a table. -/
  | table
  /-- As JSON. -/
  | json
deriving DecidableEq, Repr

namespace OutputFormat

/-- The name of a format. -/
def name : OutputFormat → String
  | .table => "table"
  | .json => "json"

/-- The format with the given name. -/
def ofName (s : String) : OutputFormat := if s = "json" then .json else .table

end OutputFormat

/-- What can be asked of the tool. -/
inductive Command where
  /-- Run the migrations. -/
  | migrateRun
  /-- Enter a user. -/
  | userCreate (name : String) (image : Option String)
  /-- List users. -/
  | userList (limit offset : Int)
  /-- Show a user. -/
  | userShow (user : String)
  /-- Delete a user. -/
  | userDelete (user : String) (force : Bool)
  /-- Open a session. -/
  | sessionOpen (user : String) (thumbprint : Option String)
  /-- Show a session. -/
  | sessionShow (id : String)
  /-- List the sessions of a user. -/
  | sessionList (user : String) (all : Bool)
  /-- Bind a session to a key. -/
  | sessionBind (id thumbprint : String)
  /-- Note that a session is used. -/
  | sessionTouch (id : String)
  /-- Revoke a session. -/
  | sessionRevoke (id : String)
  /-- Revoke all sessions of a user. -/
  | sessionRevokeAll (user : String) (force : Bool)
  /-- Issue a token. -/
  | tokenIssue (session : String) (lifetime : Option Int)
  /-- Exchange a token. -/
  | tokenRotate (token : String)
  /-- Revoke a token. -/
  | tokenRevoke (token : String)
  /-- Ask whether a token can be exchanged. -/
  | tokenCheck (token : String)
  /-- Describe a token. -/
  | tokenInspect (token : String)
  /-- List the tokens of a session. -/
  | tokenChain (session : String)
  /-- Run a cleanup cycle. -/
  | cleanupRun (force : Bool)
deriving DecidableEq, Repr

namespace Command

/-- The words that name a command, and what it is given, by name. -/
def describe : Command → String × String × List (String × Json)
  | migrateRun => ("migrate", "run", [])
  | userCreate name image =>
    ("user", "create", [("name", .str name), ("image_url", .ofOption .str image)])
  | userList limit offset => ("user", "list", [("limit", .int limit), ("offset", .int offset)])
  | userShow user => ("user", "show", [("user", .str user)])
  | userDelete user force => ("user", "delete", [("user", .str user), ("force", .bool force)])
  | sessionOpen user thumbprint =>
    ("session", "open", [("user_id", .str user), ("jkt", .ofOption .str thumbprint)])
  | sessionShow id => ("session", "show", [("id", .str id)])
  | sessionList user all => ("session", "list", [("user_id", .str user), ("all", .bool all)])
  | sessionBind id thumbprint =>
    ("session", "bind", [("id", .str id), ("jkt", .str thumbprint)])
  | sessionTouch id => ("session", "touch", [("id", .str id)])
  | sessionRevoke id => ("session", "revoke", [("id", .str id)])
  | sessionRevokeAll user force =>
    ("session", "revoke-all", [("user_id", .str user), ("force", .bool force)])
  | tokenIssue session lifetime =>
    ("token", "issue", [("session_id", .str session), ("ttl", .ofOption .int lifetime)])
  | tokenRotate token => ("token", "rotate", [("token", .str token)])
  | tokenRevoke token => ("token", "revoke", [("token", .str token)])
  | tokenCheck token => ("token", "check", [("token", .str token)])
  | tokenInspect token => ("token", "inspect", [("token", .str token)])
  | tokenChain session => ("token", "chain", [("session_id", .str session)])
  | cleanupRun force => ("cleanup", "run", [("force", .bool force)])

end Command

/-- A command line that has been read. -/
structure Invocation where
  /-- The folder of the configuration. -/
  config : String
  /-- The environment whose configuration is used. -/
  environment : Option String
  /-- How results are printed. -/
  format : OutputFormat
  /-- What is asked for. -/
  command : Command
deriving DecidableEq, Repr

/-! ### The grammar -/

/-- A switch that keeps the tool from asking for confirmation. -/
def forceOption : OptionSpec := ⟨"force", none, .switch⟩

/-- A command with its operands and its options besides `--help`. -/
def leaf (operands : List String) (options : List OptionSpec) : Grammar :=
  .command (.help :: options) operands

/-- Commands under one word. -/
def under (commands : List (String × Grammar)) : Grammar := .group [.help] commands

/-- The commands on migrations. -/
def migrateGrammar : Grammar := under [("run", leaf [] [])]

/-- The commands on users. -/
def userGrammar : Grammar :=
  under
    [("create", leaf ["name"] [⟨"image-url", none, .text⟩]),
      ("list", leaf [] [⟨"limit", none, .integer⟩, ⟨"offset", none, .integer⟩]),
      ("show", leaf ["user"] []),
      ("delete", leaf ["user"] [forceOption])]

/-- The commands on sessions. -/
def sessionGrammar : Grammar :=
  under
    [("open", leaf ["user_id"] [⟨"jkt", none, .text⟩]),
      ("show", leaf ["id"] []),
      ("list", leaf ["user_id"] [⟨"all", none, .switch⟩]),
      ("bind", leaf ["id", "jkt"] []),
      ("touch", leaf ["id"] []),
      ("revoke", leaf ["id"] []),
      ("revoke-all", leaf ["user_id"] [forceOption])]

/-- The commands on tokens. -/
def tokenGrammar : Grammar :=
  under
    [("issue", leaf ["session_id"] [⟨"ttl", none, .integer⟩]),
      ("rotate", leaf ["token"] []),
      ("revoke", leaf ["token"] []),
      ("check", leaf ["token"] []),
      ("inspect", leaf ["token"] []),
      ("chain", leaf ["session_id"] [])]

/-- The commands on cleanup. -/
def cleanupGrammar : Grammar := under [("run", leaf [] [forceOption])]

/-- The whole grammar. -/
def grammar : Grammar :=
  .group
    [.help, ⟨"version", some 'V', .version⟩, ⟨"config", some 'c', .text⟩, ⟨"env", some 'e', .text⟩,
      ⟨"format", some 'f', .choice ["table", "json"]⟩]
    [("migrate", migrateGrammar), ("user", userGrammar), ("session", sessionGrammar),
      ("token", tokenGrammar), ("cleanup", cleanupGrammar)]

/-! ### Reading -/

namespace Level

/-- The value of an option. -/
def value? (l : Level) (name : String) : Option String := l.options.lookup name

/-- Whether a switch is given. -/
def has (l : Level) (name : String) : Bool := (l.value? name).isSome

/-- The value of an option that takes an integer. -/
def integer? (l : Level) (name : String) : Option Int := (l.value? name).bind Text.readInt64?

end Level

/-- The command that a path of words and what is given with the last of them ask for. -/
def Command.ofPath? (path : List String) (l : Level) : Option Command :=
  match path, l.operands with
  | ["migrate", "run"], [] => some .migrateRun
  | ["user", "create"], [name] => some (.userCreate name (l.value? "image-url"))
  | ["user", "list"], [] =>
    some (.userList ((l.integer? "limit").getD 50) ((l.integer? "offset").getD 0))
  | ["user", "show"], [user] => some (.userShow user)
  | ["user", "delete"], [user] => some (.userDelete user (l.has "force"))
  | ["session", "open"], [user] => some (.sessionOpen user (l.value? "jkt"))
  | ["session", "show"], [id] => some (.sessionShow id)
  | ["session", "list"], [user] => some (.sessionList user (l.has "all"))
  | ["session", "bind"], [id, thumbprint] => some (.sessionBind id thumbprint)
  | ["session", "touch"], [id] => some (.sessionTouch id)
  | ["session", "revoke"], [id] => some (.sessionRevoke id)
  | ["session", "revoke-all"], [user] => some (.sessionRevokeAll user (l.has "force"))
  | ["token", "issue"], [session] => some (.tokenIssue session (l.integer? "ttl"))
  | ["token", "rotate"], [token] => some (.tokenRotate token)
  | ["token", "revoke"], [token] => some (.tokenRevoke token)
  | ["token", "check"], [token] => some (.tokenCheck token)
  | ["token", "inspect"], [token] => some (.tokenInspect token)
  | ["token", "chain"], [session] => some (.tokenChain session)
  | ["cleanup", "run"], [] => some (.cleanupRun (l.has "force"))
  | _, _ => none

/-- Read a command line. The first level holds the options that stand before the command, the last
one what belongs to it. -/
def Invocation.read (words : List String) : Except UsageError Invocation := do
  let (path, levels) ← grammar.read words
  let root := levels.headD {}
  match Command.ofPath? path (levels.getLastD {}) with
  | none => throw .invalidSubcommand
  | some command =>
    return {
      config := (root.value? "config").getD "config"
      environment := root.value? "env"
      format := .ofName ((root.value? "format").getD "table")
      command }

end SessionKeeper.Cli
