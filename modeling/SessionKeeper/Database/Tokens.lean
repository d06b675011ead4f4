import SessionKeeper.Database.Sessions

/-!
Refresh tokens in the database. Issuing a token and exchanging one each take one transaction,
which locks the session before it locks or writes any token, so that two of them for one session
come one after the other. A token leaves the set of current tokens before its replacement enters.
-/

namespace SessionKeeper.Database.Tokens

/-- Read a token. -/
def read : Reader Token := fun row => do
  let id ← row.read Value.toUuid? "id"
  let session ← row.read Value.toUuid? "session_id"
  let hash ← row.read Value.toBytes? "token_hash"
  let issuedAt ← row.read Value.toInstant? "issued_at"
  let expiresAt ← row.read Value.toInstant? "expires_at"
  let usedAt ← row.read? Value.toInstant? "used_at"
  let revokedAt ← row.read? Value.toInstant? "revoked_at"
  let replacedBy ← row.read? Value.toUuid? "replaced_by"
  return ⟨id, session, hash, issuedAt, expiresAt, usedAt, revokedAt, replacedBy⟩

/-- Go on with a token, or end with the error that there is none. -/
def known {α : Type} : Option α → Action α
  | some a => pure a
  | none => throw .unknownToken

/-- Enter a token. -/
def insert (t : Token) : Action Token :=
  fetchOne "Failed to insert refresh token" read
    ⟨"INSERT INTO refresh_tokens (id, session_id, token_hash, issued_at, expires_at, used_at, " ++
      "revoked_at, replaced_by) VALUES ($1, $2, $3, $4, $5, $6, $7, $8) RETURNING *",
      [.uuid t.id, .uuid t.session, .bytes t.hash, .ofInstant t.issuedAt, .ofInstant t.expiresAt,
        .ofOption .ofInstant t.usedAt, .ofOption .ofInstant t.revokedAt,
        .ofOption .uuid t.replacedBy]⟩

/-- The identifier of a session's current token, locked until the transaction ends. -/
def lockCurrent (session : Uuid) : Action (Option Uuid) :=
  fetchOptional "Failed to look up current token" (Row.readFirst Value.toUuid?)
    ⟨"SELECT id FROM refresh_tokens WHERE session_id = $1 AND revoked_at IS NULL AND " ++
      "replaced_by IS NULL FOR UPDATE",
      [.uuid session]⟩

/-- Revoke the current token for a new one. -/
def supersede (current : Uuid) (now : Instant) : Action Unit := do
  let _ ← execute "Failed to supersede current token"
    ⟨"UPDATE refresh_tokens SET revoked_at = $2 WHERE id = $1", [.uuid current, .ofInstant now]⟩

/-- Make room for a new current token, as the policy says. -/
def makeRoom (session : Uuid) (policy : IssuePolicy) (now : Instant) :
    Option Uuid → Action (Option Uuid)
  | none => pure none
  | some current =>
    match policy with
    | .reject => throw (.holdsToken session current)
    | .supersede => do
      supersede current now
      return some current

/-- Enter a token as the current one of its session. -/
def issue (t : Token) (policy : IssuePolicy) (now : Instant) : Action TokenIssue :=
  transaction do
    let session ← Sessions.lock t.session
    if session.isRevoked then throw (.sessionRevoked session.id)
    let superseded ← makeRoom session.id policy now (← lockCurrent session.id)
    let inserted ← insert t
    return .ofResult "Failed to commit token issuance" ⟨inserted, superseded⟩

/-- Revoke a session and every token of it that has not been revoked. -/
def revokeFamily (session : Uuid) (now : Instant) : Action Unit := do
  let _ ← execute "Failed to revoke session"
    ⟨"UPDATE auth_sessions SET revoked_at = COALESCE(revoked_at, $2) WHERE id = $1",
      [.uuid session, .ofInstant now]⟩
  let _ ← execute "Failed to revoke session tokens"
    ⟨"UPDATE refresh_tokens SET revoked_at = $2 WHERE session_id = $1 AND revoked_at IS NULL",
      [.uuid session, .ofInstant now]⟩

/-- The session of the token with the given hash. -/
def sessionOf (hash : Hash) : Action Uuid := do
  known (← fetchOptional "Failed to find refresh token" (Row.readFirst Value.toUuid?)
    ⟨"SELECT session_id FROM refresh_tokens WHERE token_hash = $1", [.bytes hash]⟩)

/-- The token with the given hash, locked until the transaction ends. -/
def lock (hash : Hash) : Action Token := do
  known (← fetchOptional "Failed to lock refresh token" read
    ⟨"SELECT * FROM refresh_tokens WHERE token_hash = $1 FOR UPDATE", [.bytes hash]⟩)

/-- Use up a token and name the one that takes its place. -/
def consume (token replacement : Uuid) (now : Instant) : Action Token :=
  fetchOne "Failed to consume refresh token" read
    ⟨"UPDATE refresh_tokens SET used_at = $2, replaced_by = $3 WHERE id = $1 RETURNING *",
      [.uuid token, .ofInstant now, .uuid replacement]⟩

/-- Note that a session is used. -/
def touchSession (session : Uuid) (now : Instant) : Action Session :=
  fetchOne "Failed to touch session" Sessions.read
    ⟨"UPDATE auth_sessions SET last_used_at = $2 WHERE id = $1 RETURNING *",
      [.uuid session, .ofInstant now]⟩

/-- Use up `token` and enter `next`, a token of the same session, in its place. -/
def replace (token : Uuid) (next : Token) (now : Instant) : Action (Verdict TokenRotation) := do
  let previous ← consume token next.id now
  let replacement ← insert next
  let session ← touchSession next.session now
  return .ofResult "Failed to commit rotation" ⟨previous, replacement, session⟩

/-- Exchange a token for the next one of its session. Presenting a spent token revokes the session
and all of its tokens, and this lasts although the exchange is refused. -/
def rotate (presented : Hash) (id : Uuid) (hash : Hash) (now : Instant) (lifetime : Span) :
    Action TokenRotation :=
  transaction do
    let sessionId ← sessionOf presented
    let session ← Sessions.lock sessionId
    let token ← lock presented
    if session.isRevoked then throw (.sessionRevoked sessionId)
    if token.isSpent then
      revokeFamily sessionId now
      return ⟨"Failed to commit replay revocation", .error (.tokenReused token.id sessionId)⟩
    if token.isExpiredAt now then throw (.tokenExpired token.id token.expiresAt)
    let next ← liftExcept (Token.fresh id sessionId hash now lifetime)
    replace token.id next now

/-- Revoke a token. -/
def revoke (hash : Hash) (now : Instant) : Action Token := do
  known (← fetchOptional "Failed to revoke refresh token" read
    ⟨"UPDATE refresh_tokens SET revoked_at = COALESCE(revoked_at, $2) WHERE token_hash = $1 " ++
      "RETURNING *",
      [.bytes hash, .ofInstant now]⟩)

/-- The token with the given hash. -/
def find (hash : Hash) : Action (Option Token) :=
  fetchOptional "Failed to find refresh token" read
    ⟨"SELECT * FROM refresh_tokens WHERE token_hash = $1", [.bytes hash]⟩

/-- Whether a token is unspent and unexpired, and its session active. -/
def isCurrentAndValid (hash : Hash) (now : Instant) : Action Bool :=
  fetchOne "Failed to check refresh token" (Row.readFirst Value.toBool?)
    ⟨"SELECT EXISTS ( SELECT 1 FROM refresh_tokens t JOIN auth_sessions s ON s.id = " ++
      "t.session_id WHERE t.token_hash = $1 AND t.used_at IS NULL AND t.revoked_at IS NULL AND " ++
      "t.replaced_by IS NULL AND t.expires_at > $2 AND s.revoked_at IS NULL)",
      [.bytes hash, .ofInstant now]⟩

/-- The tokens of a session in the order of their issue. -/
def list (session : Uuid) : Action (List Token) :=
  fetchAll "Failed to list session tokens" read
    ⟨"SELECT * FROM refresh_tokens WHERE session_id = $1 ORDER BY issued_at, id",
      [.uuid session]⟩

/-- Delete tokens that expired before an instant, up to a number of them, and count them. -/
def purge (cutoff : Instant) (limit : Int) : Action Nat :=
  execute "Failed to purge expired refresh tokens"
    ⟨"DELETE FROM refresh_tokens WHERE id IN ( SELECT t.id FROM refresh_tokens t WHERE " ++
      "t.expires_at < $1 AND (t.revoked_at IS NOT NULL OR t.replaced_by IS NOT NULL) AND NOT " ++
      "EXISTS (SELECT 1 FROM refresh_tokens r WHERE r.replaced_by = t.id) ORDER BY t.expires_at " ++
      "LIMIT $2 FOR UPDATE OF t SKIP LOCKED)",
      [.ofInstant cutoff, .int limit]⟩

end SessionKeeper.Database.Tokens
