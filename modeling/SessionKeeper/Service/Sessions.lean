import SessionKeeper.Service.Tokens

/-!
The session service: opening sessions, binding them to keys, and revoking them. Thumbprints are
taken without the blanks around them.
-/

namespace SessionKeeper

/-- A thumbprint has to be more than blanks. -/
def Error.thumbprintBlank : Error := .plain .validation "Key thumbprint must not be blank"

namespace Sessions

open Service

/-- A thumbprint without the blanks around it. -/
def readThumbprint (raw : String) : Except Error String :=
  if Text.allBlank raw then .error .thumbprintBlank else .ok (Text.trim raw)

/-- A thumbprint that may be missing. -/
def readThumbprint? : Option String → Except Error (Option String)
  | none => .ok none
  | some raw => (readThumbprint raw).map some

/-- Start a session of a user, perhaps bound to a key. -/
def create (user : Uuid) (thumbprint : Option String) : Action Session := do
  let thumbprint ← liftExcept (readThumbprint? thumbprint)
  let id ← freshId
  let now ← Service.now
  store (.createSession (Session.start id user thumbprint now))

/-- Start a session of a user and issue its first token. -/
def openWithToken (s : TokenSettings) (user : Uuid) (thumbprint : Option String) :
    Action (Session × HandedToken) := do
  let session ← create user thumbprint
  let token ← Tokens.issueDefault s session.id
  return (session, token)

/-- Bind a session to a key. -/
def bind (session : Uuid) (thumbprint : String) : Action Unit := do
  let thumbprint ← liftExcept (readThumbprint thumbprint)
  let _ ← store (.bindThumbprint session thumbprint)

/-- Note that a session is used. -/
def touch (session : Uuid) : Action Unit := do
  let now ← Service.now
  store (.touchSession session now)

/-- Revoke a session. -/
def revoke (session : Uuid) : Action Unit := do
  let now ← Service.now
  let _ ← store (.revokeSession session now)

/-- The session with the given identifier. -/
def get (session : Uuid) : Action Session := do
  orThrow (.sessionNotFound session) (← store (.findSession session))

/-- The sessions of a user, the newest first. -/
def list (user : Uuid) (includeRevoked : Bool) : Action (List Session) :=
  store (.listSessions user includeRevoked)

/-- Revoke every session of a user and count those that had not been revoked. -/
def revokeAll (user : Uuid) : Action Nat := do
  let now ← Service.now
  store (.revokeUserSessions user now)

end Sessions

end SessionKeeper
