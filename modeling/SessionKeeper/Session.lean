import SessionKeeper.Json.Decode

/-!
Sessions. A session belongs to one user and may be bound to a key by the key's thumbprint; once it
is revoked it stays so.
-/

namespace SessionKeeper

/-- A session. -/
structure Session where
  /-- Its identifier. -/
  id : Uuid
  /-- The user whose session it is. -/
  user : Uuid
  /-- The thumbprint of the key that it is bound to. -/
  thumbprint : Option String
  /-- When it was opened. -/
  createdAt : Instant
  /-- When it was last used. -/
  lastUsedAt : Option Instant
  /-- When it was revoked. -/
  revokedAt : Option Instant
deriving DecidableEq, Repr

namespace Session

/-- A session that is opened now. -/
def start (id user : Uuid) (thumbprint : Option String) (now : Instant) : Session :=
  ⟨id, user, thumbprint, now, none, none⟩

/-- Whether the session has been revoked. -/
def isRevoked (s : Session) : Bool := s.revokedAt.isSome

/-- Whether the session is bound to a key. -/
def isBound (s : Session) : Bool := s.thumbprint.isSome

/-- Revoke a session, unless it has been revoked before: the first instant stays. -/
def revoke (now : Instant) (s : Session) : Session :=
  { s with revokedAt := some (s.revokedAt.getD now) }

/-- A session as JSON. -/
def toJson (s : Session) : Json :=
  .obj [("id", .ofUuid s.id), ("user_id", .ofUuid s.user),
    ("dpop_jkt", .ofOption .str s.thumbprint), ("created_at", .ofInstant s.createdAt),
    ("last_used_at", .ofOption .ofInstant s.lastUsedAt),
    ("revoked_at", .ofOption .ofInstant s.revokedAt)]

/-- Read a session from JSON. -/
def ofJson? (v : Json) : Option Session := do
  let slots ←
    v.slots? ["id", "user_id", "dpop_jkt", "created_at", "last_used_at", "revoked_at"]
  let id ← (slots "id").required Json.toUuid?
  let user ← (slots "user_id").required Json.toUuid?
  let thumbprint ← (slots "dpop_jkt").optional Json.toString?
  let createdAt ← (slots "created_at").required Json.toInstant?
  let lastUsedAt ← (slots "last_used_at").optional Json.toInstant?
  let revokedAt ← (slots "revoked_at").optional Json.toInstant?
  some ⟨id, user, thumbprint, createdAt, lastUsedAt, revokedAt⟩

end Session

end SessionKeeper
