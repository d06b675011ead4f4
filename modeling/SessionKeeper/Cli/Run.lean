import SessionKeeper.Cli.Identifier
import SessionKeeper.Cli.Rows
import SessionKeeper.Database.Migrations
import SessionKeeper.Database.Users
import SessionKeeper.Service.Sessions

/-!
What the commands do: they ask the services and the database, and print what comes of it. What has
been printed stays printed when a command ends with an error. Commands that delete or revoke much
ask for confirmation, which nobody can give where there is no terminal.
-/

namespace SessionKeeper.Cli

/-- What a command can do besides asking the services and the database. -/
inductive Console where
  /-- Print a text and end the line. -/
  | print (text : String)

/-- Programs that print. -/
def Console.signature : Signature := ⟨Console, fun _ => Unit⟩

/-- What commands ask for. -/
def signature : Signature :=
  Service.signature.sum (Database.signature.sum Console.signature)

/-- What a command does. -/
abbrev Action (α : Type) := ExceptT Error (Prog signature) α

/-- An operation of a service. -/
def service {α : Type} (a : Service.Action α) : Action α := ExceptT.mk (Prog.left a.run)

/-- An operation on the database. -/
def database {α : Type} (a : Database.Action α) : Action α :=
  ExceptT.mk (Prog.right (Prog.left a.run))

/-- Print a text and end the line. -/
def print (text : String) : Action Unit :=
  ExceptT.lift (Prog.right (Prog.requestRight Database.signature Console.signature (.print text)))

/-- The settings that commands use. -/
structure Context where
  /-- How tokens are issued. -/
  tokens : TokenSettings
  /-- How expired tokens are deleted. -/
  cleanup : CleanupSettings
  /-- How results are printed. -/
  format : OutputFormat

/-- Nobody can be asked. -/
def noTerminal : Error := .because .internal "Input error" "not a terminal"

/-- Go on only if the command is forced. -/
def confirm (force : Bool) : Action Unit := if force then pure () else throw noTerminal

/-- Print one row. -/
def printItem (c : Context) (row : Fields) : Action Unit := print (itemText c.format row)

/-- Print rows. -/
def printList (c : Context) (rows : List Fields) : Action Unit := print (listText c.format rows)

/-- Print the opaque value of a token, which is shown this once. -/
def printToken (value : String) : Action Unit := print (entryLine "Refresh token" value)

/-- An identifier from the command line. -/
def identifier (text : String) : Action Uuid := liftExcept (readUuid text)

/-! ### Users -/

/-- There is no user with the given identifier or name. -/
def userMissing (key : String) : Error := .plain .notFound ("User '" ++ key ++ "' not found")

/-- The user with the given identifier or, if the text is no identifier, with the given name. -/
def findUser (key : String) : Action User := do
  let wanted := Text.trim key
  let found ← database <|
    match Uuid.ofText? wanted with
    | some id => Database.Users.find id
    | none => Database.Users.findByName wanted
  match found with
  | some user => return user
  | none => throw (userMissing key)

/-- Delete a user. -/
def deleteUser (key : String) (force : Bool) : Action Unit := do
  let user ← findUser key
  confirm force
  if ← database (Database.Users.delete user.id) then
    print (successLine ("User '" ++ user.name ++ "' deleted"))
  else
    print (warningLine ("User '" ++ user.name ++ "' was already gone"))

/-! ### Sessions -/

/-- Open a session and print it with its first token. -/
def openSession (c : Context) (user : String) (thumbprint : Option String) : Action Unit := do
  let (session, token) ←
    service (Sessions.openWithToken c.tokens (← identifier user) thumbprint)
  printItem c (sessionRow session)
  printToken token.value
  print (entryLine "Expires" token.record.expiresAt.toCell)

/-- Revoke every session of a user. -/
def revokeAllSessions (user : String) (force : Bool) : Action Unit := do
  let id ← identifier user
  confirm force
  let count ← service (Sessions.revokeAll id)
  print (successLine ("Revoked " ++ toString count ++ " sessions"))

/-! ### Tokens -/

/-- A lifetime in seconds. -/
def readLifetime (seconds : Int) : Except Error Span :=
  match Span.ofSeconds? seconds with
  | some s => .ok s
  | none => .error (.plain .validation ("TTL of " ++ toString seconds ++ "s is out of range"))

/-- Issue a token and print it. -/
def issueToken (c : Context) (session : String) (lifetime : Option Int) : Action Unit := do
  let id ← identifier session
  let token ← match lifetime with
    | some seconds => do service (Tokens.issue c.tokens id (← liftExcept (readLifetime seconds)))
    | none => service (Tokens.issueDefault c.tokens id)
  printItem c (tokenRow token.record)
  printToken token.value

/-- The warning that a spent token has been presented. -/
def reuseWarning : String := warningLine "Token reuse detected; the session has been revoked."

/-- Exchange a token and print the next one. -/
def rotateToken (c : Context) (token : String) : Action Unit := do
  match ← ExceptT.lift (service (Tokens.rotate c.tokens token)).run with
  | .ok rotated =>
    printItem c (tokenRow rotated.record)
    printToken rotated.value
    print (entryLine "User" rotated.user.toText)
    print (entryLine "Key thumbprint" (rotated.thumbprint.getD absent))
  | .error e =>
    if e.kind = .replayDetected then print reuseWarning
    throw e

/-! ### Commands -/

/-- Run a command. -/
def run (c : Context) : Command → Action Unit
  | .migrateRun => do
    print "Running database migrations..."
    database Database.Migrations.run
    print (successLine "All migrations applied successfully.")
  | .userCreate name image => do
    printItem c (userRow (← database (Database.Users.create ⟨name, image⟩)))
  | .userList limit offset => do
    let users ← database (Database.Users.list (.clamp limit offset))
    printList c (users.map userRow)
  | .userShow user => do printItem c (userRow (← findUser user))
  | .userDelete user force => deleteUser user force
  | .sessionOpen user thumbprint => openSession c user thumbprint
  | .sessionShow id => do
    printItem c (sessionRow (← service (Sessions.get (← identifier id))))
  | .sessionList user all => do
    let sessions ← service (Sessions.list (← identifier user) all)
    printList c (sessions.map sessionRow)
  | .sessionBind id thumbprint => do
    service (Sessions.bind (← identifier id) thumbprint)
    print (successLine ("Session " ++ id ++ " bound"))
  | .sessionTouch id => do
    service (Sessions.touch (← identifier id))
    print (successLine ("Session " ++ id ++ " touched"))
  | .sessionRevoke id => do
    service (Sessions.revoke (← identifier id))
    print (successLine ("Session " ++ id ++ " revoked"))
  | .sessionRevokeAll user force => revokeAllSessions user force
  | .tokenIssue session lifetime => issueToken c session lifetime
  | .tokenRotate token => rotateToken c token
  | .tokenRevoke token => do
    service (Tokens.revoke token)
    print (successLine "Token revoked")
  | .tokenCheck token => do
    print (validityText c.format (← service (Tokens.isCurrentAndValid token)))
  | .tokenInspect token => do
    printItem c (statusRow (← service (Tokens.inspect token)))
  | .tokenChain session => do
    let tokens ← service (Tokens.chain (← identifier session))
    printList c (tokens.map tokenRow)
  | .cleanupRun force => do
    confirm force
    printItem c (reportRow (← service (Cleanup.runOnce c.cleanup)))

end SessionKeeper.Cli
