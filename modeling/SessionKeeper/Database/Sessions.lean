import SessionKeeper.Database.Client
import SessionKeeper.Store.Request

/-!
Sessions in the database. Binding a session to a key reads and writes the session in one
transaction, under a lock on its row.
-/

namespace SessionKeeper.Database.Sessions

/-- Read a session. -/
def read : Reader Session := fun row => do
  let id ← row.read Value.toUuid? "id"
  let user ← row.read Value.toUuid? "user_id"
  let thumbprint ← row.read? Value.toText? "dpop_jkt"
  let createdAt ← row.read Value.toInstant? "created_at"
  let lastUsedAt ← row.read? Value.toInstant? "last_used_at"
  let revokedAt ← row.read? Value.toInstant? "revoked_at"
  return ⟨id, user, thumbprint, createdAt, lastUsedAt, revokedAt⟩

/-- Look for a session, or end with the error that there is none. -/
def found (id : Uuid) : Option Session → Action Session
  | some s => pure s
  | none => throw (.sessionNotFound id)

/-- A session that could not be entered because a row is missing lacks its user. -/
def orMissingUser (user : Uuid) (e : Error) : Error :=
  if e.kind = .notFound then .userNotFound user else e

/-- Enter a session. -/
def create (s : Session) : Action Session :=
  ExceptT.adapt (orMissingUser s.user) <|
    fetchOne "Failed to create session" read
      ⟨"INSERT INTO auth_sessions (id, user_id, dpop_jkt, created_at, last_used_at, revoked_at) " ++
        "VALUES ($1, $2, $3, $4, $5, $6) RETURNING *",
        [.uuid s.id, .uuid s.user, .ofOption .text s.thumbprint, .ofInstant s.createdAt,
          .ofOption .ofInstant s.lastUsedAt, .ofOption .ofInstant s.revokedAt]⟩

/-- The session with the given identifier. -/
def find (id : Uuid) : Action (Option Session) :=
  fetchOptional "Failed to find session" read
    ⟨"SELECT * FROM auth_sessions WHERE id = $1", [.uuid id]⟩

/-- The sessions of a user, the newest first. -/
def list (user : Uuid) (includeRevoked : Bool) : Action (List Session) :=
  fetchAll "Failed to list sessions" read
    ⟨"SELECT * FROM auth_sessions WHERE user_id = $1 AND ($2 OR revoked_at IS NULL) " ++
      "ORDER BY created_at DESC, id",
      [.uuid user, .bool includeRevoked]⟩

/-- The session with the given identifier, locked until the transaction ends. -/
def lock (id : Uuid) : Action Session := do
  found id (← fetchOptional "Failed to lock session" read
    ⟨"SELECT * FROM auth_sessions WHERE id = $1 FOR UPDATE", [.uuid id]⟩)

/-- Bind a session to a key. -/
def bindThumbprint (id : Uuid) (thumbprint : String) : Action Session :=
  transaction do
    let session ← lock id
    if session.isRevoked then throw (.sessionRevoked id)
    let bound ← match session.thumbprint with
      | some existing =>
        if existing = thumbprint then pure session else throw (.boundElsewhere id)
      | none =>
        fetchOne "Failed to bind thumbprint" read
          ⟨"UPDATE auth_sessions SET dpop_jkt = $2 WHERE id = $1 RETURNING *",
            [.uuid id, .text thumbprint]⟩
    return .ofResult "Failed to commit thumbprint binding" bound

/-- Note that a session is used. If no session is affected, it has been revoked or is not there. -/
def touch (id : Uuid) (now : Instant) : Action Unit := do
  let count ← execute "Failed to touch session"
    ⟨"UPDATE auth_sessions SET last_used_at = $2 WHERE id = $1 AND revoked_at IS NULL",
      [.uuid id, .ofInstant now]⟩
  if count = 0 then
    let _ ← found id (← find id)
    throw (.sessionRevoked id)

/-- Revoke a session. -/
def revoke (id : Uuid) (now : Instant) : Action Session := do
  found id (← fetchOptional "Failed to revoke session" read
    ⟨"UPDATE auth_sessions SET revoked_at = COALESCE(revoked_at, $2) WHERE id = $1 RETURNING *",
      [.uuid id, .ofInstant now]⟩)

/-- Revoke every session of a user and count those that had not been revoked. -/
def revokeAll (user : Uuid) (now : Instant) : Action Nat :=
  execute "Failed to revoke user sessions"
    ⟨"UPDATE auth_sessions SET revoked_at = $2 WHERE user_id = $1 AND revoked_at IS NULL",
      [.uuid user, .ofInstant now]⟩

end SessionKeeper.Database.Sessions
