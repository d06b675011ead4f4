import SessionKeeper.Database.Tokens

/-!
# The statements of issues and exchanges

The statements by which a token is issued and by which it is exchanged for the next one, named for
what they do.
-/

namespace SessionKeeper.Database.Statement

/-- Find the session of a token. -/
def sessionOf (hash : Hash) : Statement :=
  ⟨"SELECT session_id FROM refresh_tokens WHERE token_hash = $1", [.bytes hash]⟩

/-- Lock a session and read it. -/
def lockSession (id : Uuid) : Statement :=
  ⟨"SELECT * FROM auth_sessions WHERE id = $1 FOR UPDATE", [.uuid id]⟩

/-- Lock a token and read it. -/
def lockToken (hash : Hash) : Statement :=
  ⟨"SELECT * FROM refresh_tokens WHERE token_hash = $1 FOR UPDATE", [.bytes hash]⟩

/-- Lock the current token of a session and find its identifier. -/
def lockCurrent (session : Uuid) : Statement :=
  ⟨"SELECT id FROM refresh_tokens WHERE session_id = $1 AND revoked_at IS NULL AND " ++
    "replaced_by IS NULL FOR UPDATE",
    [.uuid session]⟩

/-- Revoke the token that a new one is issued in place of. -/
def supersede (token : Uuid) (now : Instant) : Statement :=
  ⟨"UPDATE refresh_tokens SET revoked_at = $2 WHERE id = $1", [.uuid token, .ofInstant now]⟩

/-- Revoke a session, unless that has been done before. -/
def revokeSession (id : Uuid) (now : Instant) : Statement :=
  ⟨"UPDATE auth_sessions SET revoked_at = COALESCE(revoked_at, $2) WHERE id = $1",
    [.uuid id, .ofInstant now]⟩

/-- Revoke the tokens of a session that have not been revoked. -/
def revokeTokens (session : Uuid) (now : Instant) : Statement :=
  ⟨"UPDATE refresh_tokens SET revoked_at = $2 WHERE session_id = $1 AND revoked_at IS NULL",
    [.uuid session, .ofInstant now]⟩

/-- Use a token up and name its replacement. -/
def consume (token replacement : Uuid) (now : Instant) : Statement :=
  ⟨"UPDATE refresh_tokens SET used_at = $2, replaced_by = $3 WHERE id = $1 RETURNING *",
    [.uuid token, .ofInstant now, .uuid replacement]⟩

/-- Enter a token. -/
def insertToken (t : Token) : Statement :=
  ⟨"INSERT INTO refresh_tokens (id, session_id, token_hash, issued_at, expires_at, used_at, " ++
    "revoked_at, replaced_by) VALUES ($1, $2, $3, $4, $5, $6, $7, $8) RETURNING *",
    [.uuid t.id, .uuid t.session, .bytes t.hash, .ofInstant t.issuedAt, .ofInstant t.expiresAt,
      .ofOption .ofInstant t.usedAt, .ofOption .ofInstant t.revokedAt,
      .ofOption .uuid t.replacedBy]⟩

/-- Note that a session has been used. -/
def touchSession (id : Uuid) (now : Instant) : Statement :=
  ⟨"UPDATE auth_sessions SET last_used_at = $2 WHERE id = $1 RETURNING *",
    [.uuid id, .ofInstant now]⟩

end SessionKeeper.Database.Statement
