import SessionKeeper.Service.Chain
import SessionKeeper.Service.Effect

/-!
The token service: issuing, exchanging, revoking and describing refresh tokens. A token is made
anew, a limited number of times, when its hash is already stored. Exchanging a token twice is
refused, and the store revokes its session.
-/

namespace SessionKeeper

/-- What the holder of a token gets for it. -/
structure RotatedToken where
  /-- The new opaque value. -/
  value : String
  /-- The new token. -/
  record : Token
  /-- The token that was used up. -/
  previous : Uuid
  /-- The owner of the session. -/
  user : Uuid
  /-- The session. -/
  session : Uuid
  /-- The thumbprint of the key that the session is bound to. -/
  thumbprint : Option String
deriving DecidableEq, Repr

/-- What a presented token is, without its being used. -/
structure TokenStatus where
  /-- The token. -/
  token : Token
  /-- What it is now. -/
  state : TokenState
  /-- Whether its session has been revoked. -/
  sessionRevoked : Bool
deriving DecidableEq, Repr

namespace TokenStatus

/-- Whether the token can be exchanged. -/
def isUsable (s : TokenStatus) : Bool := s.state == .current && !s.sessionRevoked

end TokenStatus

namespace Error

/-- A token cannot live for no time. -/
def lifetimeNotPositive : Error := .plain .validation "Token lifetime must be positive"

/-- No token has been presented. -/
def tokenEmpty : Error := .plain .invalidToken "Refresh token is empty"

end Error

namespace Tokens

open Service

/-- The hash of a presented opaque value, which is not blank. -/
def presentedHash (value : String) : Except Error Hash :=
  if Text.allBlank value then .error .tokenEmpty else .ok (Opaque.hash value)

theorem presentedHash_of_blank {value : String} (h : Text.allBlank value = true) :
    presentedHash value = .error .tokenEmpty := if_pos h

theorem presentedHash_of_not_blank {value : String} (h : Text.allBlank value = false) :
    presentedHash value = .ok (Opaque.hash value) := if_neg (by simp [h])

/-- The number of times that a token can be made anew after the first. -/
def retries (s : TokenSettings) : Nat := s.maxAttempts - 1

/-- Whether a refusal is one that a new hash may overcome. -/
def isCollision (e : Error) : Bool := e.kind == .constraintViolation

/-- Try something, and once more for each retry as long as hashes collide. -/
def retrying {α : Type} (once : Action (Except Error α)) : (retries : Nat) → Action α
  | 0 => once >>= liftExcept
  | retries + 1 => do
    match ← once with
    | .ok a => return a
    | .error e => if isCollision e then retrying once retries else throw e

/-- Make a token and enter it as the current one of a session. -/
def issueOnce (policy : IssuePolicy) (session : Uuid) (lifetime : Span) :
    Action (Except Error HandedToken) := do
  let value ← freshOpaque
  let now ← Service.now
  let id ← freshId
  let token ← liftExcept (Token.fresh id session (Opaque.hash value) now lifetime)
  let issued ← tryStore (.issueToken token policy now)
  return issued.map fun issued => ⟨value, issued.token⟩

/-- Issue the current token of a session, for a lifetime. -/
def issue (s : TokenSettings) (session : Uuid) (lifetime : Span) : Action HandedToken :=
  if lifetime.isPositive then retrying (issueOnce s.policy session lifetime) (retries s)
  else throw .lifetimeNotPositive

/-- Issue the current token of a session, for the lifetime of the settings. -/
def issueDefault (s : TokenSettings) (session : Uuid) : Action HandedToken := do
  issue s session (← liftExcept s.lifetime)

/-- Make a token and exchange the presented one for it. -/
def rotateOnce (presented : Hash) (lifetime : Span) : Action (Except Error RotatedToken) := do
  let value ← freshOpaque
  let now ← Service.now
  let id ← freshId
  let rotated ← tryStore (.rotateToken presented id (Opaque.hash value) now lifetime)
  return rotated.map fun r =>
    { value
      record := r.replacement
      previous := r.previous.id
      user := r.session.user
      session := r.session.id
      thumbprint := r.session.thumbprint }

/-- Exchange a token for the next one of its session. -/
def rotate (s : TokenSettings) (value : String) : Action RotatedToken := do
  let presented ← liftExcept (presentedHash value)
  let lifetime ← liftExcept s.lifetime
  retrying (rotateOnce presented lifetime) (retries s)

theorem rotate_of_blank (s : TokenSettings) {value : String} (h : Text.allBlank value = true) :
    rotate s value = throw .tokenEmpty := by
  rw [rotate, presentedHash_of_blank h]
  rfl

theorem rotate_of_lifetime_error {s : TokenSettings} {value : String} {e : Error}
    (h : Text.allBlank value = false) (he : s.lifetime = .error e) :
    rotate s value = throw e := by
  rw [rotate, presentedHash_of_not_blank h, he]
  rfl

theorem rotate_of_lifetime {s : TokenSettings} {value : String} {lifetime : Span}
    (h : Text.allBlank value = false) (hl : s.lifetime = .ok lifetime) :
    rotate s value = retrying (rotateOnce (Opaque.hash value) lifetime) (retries s) := by
  rw [rotate, presentedHash_of_not_blank h, hl]
  rfl

/-- Revoke a token without giving another for it. -/
def revoke (value : String) : Action Unit := do
  let hash ← liftExcept (presentedHash value)
  let now ← Service.now
  let _ ← store (.revokeToken hash now)

/-- Whether a token can be exchanged; a blank one cannot. -/
def isCurrentAndValid (value : String) : Action Bool := do
  if Text.allBlank value then return false
  let now ← Service.now
  store (.isCurrentAndValid (Opaque.hash value) now)

/-- Describe a token without changing anything. A session that is not there counts as revoked. -/
def inspect (value : String) : Action TokenStatus := do
  let hash ← liftExcept (presentedHash value)
  let token ← orThrow .unknownToken (← store (.findToken hash))
  let session ← store (.findSession token.session)
  let now ← Service.now
  return ⟨token, token.stateAt now, session.all Session.isRevoked⟩

theorem inspect_of_blank {value : String} (h : Text.allBlank value = true) :
    inspect value = throw .tokenEmpty := by
  rw [inspect, presentedHash_of_blank h]
  rfl

/-- The tokens of a session, ordered along their links. -/
def chain (session : Uuid) : Action (List Token) := do
  let _ ← orThrow (.sessionNotFound session) (← store (.findSession session))
  return Chain.order (← store (.sessionTokens session))

end Tokens

end SessionKeeper
