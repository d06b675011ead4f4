import SessionKeeper.Error
import SessionKeeper.Opaque
import SessionKeeper.Session

/-!
Refresh tokens. A token is current until it is revoked or replaced, and it is spent as soon as it
has been used, revoked or replaced. Only the hash of a token's opaque value is kept.
-/

namespace SessionKeeper

/-- What a refresh token is at an instant. -/
inductive TokenState where
  /-- It can be presented. -/
  | current
  /-- It has been presented and replaced. -/
  | used
  /-- It has been revoked. -/
  | revoked
  /-- Its time is over. -/
  | expired
deriving DecidableEq, Repr

namespace TokenState

/-- The name of a state. -/
def name : TokenState → String
  | .current => "current"
  | .used => "used"
  | .revoked => "revoked"
  | .expired => "expired"

/-- The state with the given name. -/
def ofName? (s : String) : Option TokenState :=
  [.current, .used, .revoked, .expired].find? fun state => state.name == s

/-- Whether a token cannot leave the state. -/
def isTerminal (s : TokenState) : Bool := s != .current

end TokenState

/-- A refresh token. -/
structure Token where
  /-- Its identifier. -/
  id : Uuid
  /-- The session that it refreshes. -/
  session : Uuid
  /-- The hash of its opaque value. -/
  hash : Hash
  /-- When it was issued. -/
  issuedAt : Instant
  /-- From when on it is expired. -/
  expiresAt : Instant
  /-- When it was used. -/
  usedAt : Option Instant
  /-- When it was revoked. -/
  revokedAt : Option Instant
  /-- The token that took its place. -/
  replacedBy : Option Uuid
deriving DecidableEq, Repr

namespace Token

/-- A lifetime whose end the calendar does not reach. -/
def lifetimeOutOfRange : Error := .plain .validation "Token lifetime is out of range"

/-- A token that is issued now and lives for `lifetime`. -/
def fresh (id session : Uuid) (hash : Hash) (now : Instant) (lifetime : Span) :
    Except Error Token :=
  match now.add? lifetime with
  | some expiresAt => .ok ⟨id, session, hash, now, expiresAt, none, none, none⟩
  | none => .error lifetimeOutOfRange

/-- Whether the token is the one that its session goes on with. -/
def isCurrent (t : Token) : Bool := t.revokedAt.isNone && t.replacedBy.isNone

/-- Whether the token has been used, revoked or replaced. -/
def isSpent (t : Token) : Bool := t.usedAt.isSome || t.revokedAt.isSome || t.replacedBy.isSome

/-- Whether the token's time is over at an instant. -/
def isExpiredAt (t : Token) (now : Instant) : Bool := t.expiresAt ≤ now

/-- What the token is at an instant. Being revoked comes before being used, and both before being
expired. -/
def stateAt (t : Token) (now : Instant) : TokenState :=
  if t.revokedAt.isSome then .revoked
  else if t.usedAt.isSome || t.replacedBy.isSome then .used
  else if t.isExpiredAt now then .expired
  else .current

/-- Revoke a token, unless it has been revoked before: the first instant stays. -/
def revoke (now : Instant) (t : Token) : Token :=
  { t with revokedAt := some (t.revokedAt.getD now) }

/-- Use a token up and name the token that takes its place. -/
def consume (now : Instant) (replacement : Uuid) (t : Token) : Token :=
  { t with usedAt := some now, replacedBy := some replacement }

/-- The fields of a token as JSON, but for its hash, which is never shown. -/
def members (t : Token) : List (String × Json) :=
  [("id", .ofUuid t.id), ("session_id", .ofUuid t.session), ("issued_at", .ofInstant t.issuedAt),
    ("expires_at", .ofInstant t.expiresAt), ("used_at", .ofOption .ofInstant t.usedAt),
    ("revoked_at", .ofOption .ofInstant t.revokedAt),
    ("replaced_by", .ofOption .ofUuid t.replacedBy)]

/-- A token as JSON, without its hash. -/
def toJson (t : Token) : Json := .obj t.members

/-- Read a token from JSON; its hash is a list of bytes. -/
def ofJson? (v : Json) : Option Token := do
  let slots ←
    v.slots? ["id", "session_id", "token_hash", "issued_at", "expires_at", "used_at", "revoked_at",
      "replaced_by"]
  let id ← (slots "id").required Json.toUuid?
  let session ← (slots "session_id").required Json.toUuid?
  let hash ← (slots "token_hash").required Json.toBytes?
  let issuedAt ← (slots "issued_at").required Json.toInstant?
  let expiresAt ← (slots "expires_at").required Json.toInstant?
  let usedAt ← (slots "used_at").optional Json.toInstant?
  let revokedAt ← (slots "revoked_at").optional Json.toInstant?
  let replacedBy ← (slots "replaced_by").optional Json.toUuid?
  some ⟨id, session, hash, issuedAt, expiresAt, usedAt, revokedAt, replacedBy⟩

end Token

/-- A token together with the opaque value that its holder is given. -/
structure HandedToken where
  /-- The opaque value. -/
  value : String
  /-- The stored token. -/
  record : Token
deriving DecidableEq, Repr

/-- What storing a first token of a session comes to. -/
structure TokenIssue where
  /-- The stored token. -/
  token : Token
  /-- The token that was current before and has been revoked for it. -/
  superseded : Option Uuid
deriving DecidableEq, Repr

namespace TokenIssue

/-- An issue as JSON. -/
def toJson (i : TokenIssue) : Json :=
  .obj [("token", i.token.toJson), ("superseded", .ofOption .ofUuid i.superseded)]

/-- Read an issue from JSON. -/
def ofJson? (v : Json) : Option TokenIssue := do
  let slots ← v.slots? ["token", "superseded"]
  let token ← (slots "token").required Token.ofJson?
  let superseded ← (slots "superseded").optional Json.toUuid?
  some ⟨token, superseded⟩

end TokenIssue

/-- What exchanging a token for the next one comes to. -/
structure TokenRotation where
  /-- The token that was presented, used up. -/
  previous : Token
  /-- The token that took its place. -/
  replacement : Token
  /-- The session, just used. -/
  session : Session
deriving DecidableEq, Repr

namespace TokenRotation

/-- A rotation as JSON. -/
def toJson (r : TokenRotation) : Json :=
  .obj [("previous", r.previous.toJson), ("replacement", r.replacement.toJson),
    ("session", r.session.toJson)]

/-- Read a rotation from JSON. -/
def ofJson? (v : Json) : Option TokenRotation := do
  let slots ← v.slots? ["previous", "replacement", "session"]
  let previous ← (slots "previous").required Token.ofJson?
  let replacement ← (slots "replacement").required Token.ofJson?
  let session ← (slots "session").required Session.ofJson?
  some ⟨previous, replacement, session⟩

end TokenRotation

end SessionKeeper
