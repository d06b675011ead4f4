import SessionKeeper.Config.Settings
import SessionKeeper.Prog
import SessionKeeper.Token

/-!
What can be asked of a store of sessions and refresh tokens, and how it refuses. Each request is
answered as a whole: its writes are made together or not at all. The one exception is the reuse of
a token, which revokes the session's tokens and is refused nevertheless.
-/

namespace SessionKeeper

/-! ### Refusals -/

namespace Error

/-- There is no such session. -/
def sessionNotFound (id : Uuid) : Error :=
  .plain .notFound ("Session " ++ id.toText ++ " not found")

/-- There is no such user. -/
def userNotFound (id : Uuid) : Error := .plain .notFound ("User " ++ id.toText ++ " not found")

/-- The session has been revoked. -/
def sessionRevoked (id : Uuid) : Error :=
  .plain .sessionRevoked ("Session " ++ id.toText ++ " is revoked")

/-- There is such a session already. -/
def sessionExists (id : Uuid) : Error :=
  .plain .conflict ("Session " ++ id.toText ++ " already exists")

/-- The session is bound to another key. -/
def boundElsewhere (id : Uuid) : Error :=
  .plain .alreadyBound ("Session " ++ id.toText ++ " is bound to a different key")

/-- The session holds a given current token. -/
def holdsToken (session token : Uuid) : Error :=
  .plain .tokenAlreadyCurrent
    ("Session " ++ session.toText ++ " already holds current token " ++ token.toText)

/-- The session holds some current token. -/
def holdsSomeToken (session : Uuid) : Error :=
  .plain .tokenAlreadyCurrent ("Session " ++ session.toText ++ " already holds a current token")

/-- There is a token with this hash already. -/
def hashCollision : Error := .plain .constraintViolation "Refresh token hash collision"

/-- There is no such token. -/
def unknownToken : Error := .plain .invalidToken "Unknown refresh token"

/-- A spent token has been presented. -/
def tokenReused (token session : Uuid) : Error :=
  .plain .replayDetected
    ("Refresh token " ++ token.toText ++ " was already used; session " ++ session.toText ++
      " revoked")

/-- The token's time is over. -/
def tokenExpired (token : Uuid) (at_ : Instant) : Error :=
  .plain .tokenExpired ("Refresh token " ++ token.toText ++ " expired at " ++ at_.toMessage)

end Error

namespace Store

/-! ### Requests -/

/-- What can be asked of a store. -/
inductive Request where
  /-- Enter a session. -/
  | createSession (s : Session)
  /-- Look a session up. -/
  | findSession (id : Uuid)
  /-- The sessions of a user, the newest first. -/
  | listSessions (user : Uuid) (includeRevoked : Bool)
  /-- Bind a session to a key, once. -/
  | bindThumbprint (id : Uuid) (thumbprint : String)
  /-- Note that a session is used. -/
  | touchSession (id : Uuid) (now : Instant)
  /-- Revoke a session. -/
  | revokeSession (id : Uuid) (now : Instant)
  /-- Revoke every session of a user. -/
  | revokeUserSessions (user : Uuid) (now : Instant)
  /-- Enter a token as the current one of its session. -/
  | issueToken (t : Token) (policy : IssuePolicy) (now : Instant)
  /-- Use a token up and enter the one that takes its place, with the given identifier, hash and
  lifetime. -/
  | rotateToken (presented : Hash) (id : Uuid) (hash : Hash) (now : Instant) (lifetime : Span)
  /-- Revoke a token. -/
  | revokeToken (hash : Hash) (now : Instant)
  /-- Look a token up. -/
  | findToken (hash : Hash)
  /-- Ask whether a token can be presented. -/
  | isCurrentAndValid (hash : Hash) (now : Instant)
  /-- The tokens of a session in the order of their issue. -/
  | sessionTokens (session : Uuid)
  /-- Delete tokens that expired before an instant, up to a number of them. -/
  | purgeExpired (cutoff : Instant) (limit : Int)

/-- What a request is answered with, unless it is refused. -/
def Request.Reply : Request → Type
  | .createSession _ => Session
  | .findSession _ => Option Session
  | .listSessions _ _ => List Session
  | .bindThumbprint _ _ => Session
  | .touchSession _ _ => Unit
  | .revokeSession _ _ => Session
  | .revokeUserSessions _ _ => Nat
  | .issueToken _ _ _ => TokenIssue
  | .rotateToken _ _ _ _ _ => TokenRotation
  | .revokeToken _ _ => Token
  | .findToken _ => Option Token
  | .isCurrentAndValid _ _ => Bool
  | .sessionTokens _ => List Token
  | .purgeExpired _ _ => Nat

/-- Programs that ask a store. -/
def signature : Signature := ⟨Request, fun r => Except Error r.Reply⟩

/-- Sessions are listed with the newest first, and those of one instant by identifier. -/
def listedBefore (a b : Session) : Bool :=
  if a.createdAt = b.createdAt then a.id ≤ b.id else b.createdAt < a.createdAt

/-- Tokens are listed in the order of their issue, and those of one instant by identifier. -/
def issuedBefore (a b : Token) : Bool :=
  if a.issuedAt = b.issuedAt then a.id ≤ b.id else a.issuedAt < b.issuedAt

end Store

end SessionKeeper
