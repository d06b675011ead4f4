import SessionKeeper.Store.Request

/-!
A store in memory: the known users, the rows of sessions and tokens, and an index from hashes to
tokens. Every operation takes the store as it is and gives its answer together with the store as
it is afterwards. A refusal leaves the store alone, but for the reuse of a token.
-/

namespace SessionKeeper

/-- A store in memory. -/
structure Memory where
  /-- The users that sessions can be opened for. -/
  users : List Uuid := []
  /-- The sessions. -/
  sessions : List Session := []
  /-- The tokens. -/
  tokens : List Token := []
  /-- The token that each hash stands for. -/
  byHash : List (Hash × Uuid) := []
deriving DecidableEq, Repr

namespace Memory

/-- The answer to a request and the store after it. -/
abbrev Outcome (α : Type) := Except Error α × Memory

/-- The store without anything in it. -/
def empty : Memory := {}

/-! ### Looking up -/

/-- The session with the given identifier. -/
def session? (m : Memory) (id : Uuid) : Option Session := m.sessions.find? fun s => s.id == id

/-- The token with the given identifier. -/
def token? (m : Memory) (id : Uuid) : Option Token := m.tokens.find? fun t => t.id == id

/-- The identifier that a hash stands for. -/
def idOfHash? (m : Memory) (hash : Hash) : Option Uuid := m.byHash.lookup hash

/-- Whether a hash stands for a token. -/
def hasHash (m : Memory) (hash : Hash) : Bool := (m.idOfHash? hash).isSome

/-- The token that a hash stands for. -/
def tokenByHash? (m : Memory) (hash : Hash) : Option Token := (m.idOfHash? hash).bind m.token?

/-- The current token of a session. -/
def currentOf? (m : Memory) (session : Uuid) : Option Token :=
  m.tokens.find? fun t => t.session == session && t.isCurrent

/-- The sessions of a user. -/
def sessionsOf (m : Memory) (user : Uuid) : List Session :=
  m.sessions.filter fun s => s.user == user

/-- The tokens of a session, as they are stored. -/
def tokensOf (m : Memory) (session : Uuid) : List Token :=
  m.tokens.filter fun t => t.session == session

/-! ### Writing -/

/-- Change the session with the given identifier. -/
def modifySession (m : Memory) (id : Uuid) (f : Session → Session) : Memory :=
  { m with sessions := m.sessions.map fun s => if s.id == id then f s else s }

/-- Change the token with the given identifier. -/
def modifyToken (m : Memory) (id : Uuid) (f : Token → Token) : Memory :=
  { m with tokens := m.tokens.map fun t => if t.id == id then f t else t }

/-- Put a token in place of the one that has its identifier, or behind all others. -/
def putToken (m : Memory) (t : Token) : Memory :=
  if m.tokens.any fun u => u.id == t.id then m.modifyToken t.id fun _ => t
  else { m with tokens := m.tokens ++ [t] }

/-- Let a hash stand for a token. -/
def indexHash (m : Memory) (hash : Hash) (id : Uuid) : Memory :=
  { m with byHash := m.byHash ++ [(hash, id)] }

/-- Take tokens out, together with what their hashes stand for. -/
def dropTokens (m : Memory) (doomed : List Token) : Memory :=
  { m with
    tokens := m.tokens.filter fun t => !doomed.any fun d => d.id == t.id
    byHash := m.byHash.filter fun (hash, _) => !doomed.any fun d => d.hash == hash }

/-- Enter a token. Its hash is new, and if it is current then its session holds no other current
token. -/
def insertToken (m : Memory) (t : Token) : Outcome Token :=
  if m.hasHash t.hash then (.error .hashCollision, m)
  else if t.isCurrent && (m.currentOf? t.session).isSome then
    (.error (.holdsSomeToken t.session), m)
  else (.ok t, (m.indexHash t.hash t.id).putToken t)

/-! ### Users -/

/-- Let sessions be opened for a user. -/
def addUser (m : Memory) (user : Uuid) : Memory :=
  if m.users.contains user then m else { m with users := m.users ++ [user] }

/-- Take a user out, together with its sessions and their tokens. Tells whether there was such a
user. -/
def removeUser (m : Memory) (user : Uuid) : Bool × Memory :=
  if m.users.contains user then
    let gone := (m.sessionsOf user).map (·.id)
    let kept := { m with
      users := m.users.filter fun u => u != user
      sessions := m.sessions.filter fun s => !gone.contains s.id }
    (true, kept.dropTokens (m.tokens.filter fun t => gone.contains t.session))
  else (false, m)

/-! ### Sessions -/

/-- Enter a session. -/
def createSession (m : Memory) (s : Session) : Outcome Session :=
  if !m.users.contains s.user then (.error (.userNotFound s.user), m)
  else if (m.session? s.id).isSome then (.error (.sessionExists s.id), m)
  else (.ok s, { m with sessions := m.sessions ++ [s] })

/-- The sessions of a user, the newest first. -/
def listSessions (m : Memory) (user : Uuid) (includeRevoked : Bool) : List Session :=
  ((m.sessionsOf user).filter fun s => includeRevoked || !s.isRevoked).mergeSort Store.listedBefore

/-- Do something with a session that exists and has not been revoked. -/
def withActive {α : Type} (m : Memory) (id : Uuid) (f : Session → Outcome α) : Outcome α :=
  match m.session? id with
  | none => (.error (.sessionNotFound id), m)
  | some s => if s.isRevoked then (.error (.sessionRevoked id), m) else f s

/-- Bind a session to a key. Binding it to the same key again changes nothing. -/
def bindThumbprint (m : Memory) (id : Uuid) (thumbprint : String) : Outcome Session :=
  m.withActive id fun s =>
    match s.thumbprint with
    | some existing =>
      if existing = thumbprint then (.ok s, m) else (.error (.boundElsewhere id), m)
    | none =>
      let bound := { s with thumbprint := some thumbprint }
      (.ok bound, m.modifySession id fun _ => bound)

/-- Note that a session is used. -/
def touchSession (m : Memory) (id : Uuid) (now : Instant) : Outcome Unit :=
  m.withActive id fun _ =>
    (.ok (), m.modifySession id fun s => { s with lastUsedAt := some now })

/-- Revoke a session. -/
def revokeSession (m : Memory) (id : Uuid) (now : Instant) : Outcome Session :=
  match m.session? id with
  | none => (.error (.sessionNotFound id), m)
  | some s => (.ok (s.revoke now), m.modifySession id (·.revoke now))

/-- Revoke every session of a user and count those that had not been revoked. -/
def revokeUserSessions (m : Memory) (user : Uuid) (now : Instant) : Nat × Memory :=
  let affected := (m.sessionsOf user).filter fun s => !s.isRevoked
  (affected.length,
    { m with sessions := m.sessions.map fun s => if s.user == user then s.revoke now else s })

/-! ### Tokens -/

/-- Enter a token as the current one of its session. -/
def issueToken (m : Memory) (t : Token) (policy : IssuePolicy) (now : Instant) :
    Outcome TokenIssue :=
  m.withActive t.session fun _ =>
    if m.hasHash t.hash then (.error .hashCollision, m)
    else
      match m.currentOf? t.session, policy with
      | none, _ =>
        let (inserted, m) := m.insertToken t
        (inserted.map fun t => ⟨t, none⟩, m)
      | some current, .reject => (.error (.holdsToken t.session current.id), m)
      | some current, .supersede =>
        let (inserted, m) :=
          (m.modifyToken current.id fun c => { c with revokedAt := some now }).insertToken t
        (inserted.map fun t => ⟨t, some current.id⟩, m)

/-- Revoke a session and every token of it. -/
def revokeFamily (m : Memory) (session : Uuid) (now : Instant) : Memory :=
  let m := m.modifySession session (·.revoke now)
  { m with tokens := m.tokens.map fun t => if t.session == session then t.revoke now else t }

/-- Use up `token` and enter `next` in its place. -/
def replaceToken (m : Memory) (token next : Token) (now : Instant) : Outcome TokenRotation :=
  let previous := token.consume now next.id
  let (inserted, m) := (m.modifyToken token.id fun _ => previous).insertToken next
  match inserted with
  | .error e => (.error e, m)
  | .ok replacement =>
    match m.session? token.session with
    | none => (.error (.sessionNotFound token.session), m)
    | some s =>
      let used := { s with lastUsedAt := some now }
      (.ok ⟨previous, replacement, used⟩, m.modifySession token.session fun _ => used)

/-- Exchange a token for the next one of its session. Presenting a spent token revokes the session
and all of its tokens. -/
def rotateToken (m : Memory) (presented : Hash) (id : Uuid) (hash : Hash) (now : Instant)
    (lifetime : Span) : Outcome TokenRotation :=
  match m.tokenByHash? presented with
  | none => (.error .unknownToken, m)
  | some token =>
    m.withActive token.session fun _ =>
      if token.isSpent then
        (.error (.tokenReused token.id token.session), m.revokeFamily token.session now)
      else if token.isExpiredAt now then (.error (.tokenExpired token.id token.expiresAt), m)
      else if m.hasHash hash then (.error .hashCollision, m)
      else
        match Token.fresh id token.session hash now lifetime with
        | .error e => (.error e, m)
        | .ok next => m.replaceToken token next now

/-- Revoke a token. -/
def revokeToken (m : Memory) (hash : Hash) (now : Instant) : Outcome Token :=
  match m.tokenByHash? hash with
  | none => (.error .unknownToken, m)
  | some t => (.ok (t.revoke now), m.modifyToken t.id (·.revoke now))

/-- Whether a token is unspent and unexpired, and its session active. -/
def isCurrentAndValid (m : Memory) (hash : Hash) (now : Instant) : Bool :=
  match m.tokenByHash? hash with
  | none => false
  | some t =>
    (m.session? t.session).any (fun s => !s.isRevoked) && !t.isSpent && !t.isExpiredAt now

/-- The tokens of a session in the order of their issue. -/
def sessionTokens (m : Memory) (session : Uuid) : List Token :=
  (m.tokensOf session).mergeSort Store.issuedBefore

/-- Whether some token names the given one as its replacement. -/
def isReferenced (m : Memory) (id : Uuid) : Bool :=
  m.tokens.any fun t => t.replacedBy == some id

/-- The tokens that may be deleted: expired before an instant, not current, and the replacement of
no stored token. -/
def purgeable (m : Memory) (cutoff : Instant) : List Token :=
  m.tokens.filter fun t =>
    decide (t.expiresAt < cutoff) && !t.isCurrent && !m.isReferenced t.id

/-- The tokens that one purge deletes: those that expired first, up to a number of them. -/
def doomed (m : Memory) (cutoff : Instant) (limit : Int) : List Token :=
  ((m.purgeable cutoff).mergeSort fun a b => a.expiresAt ≤ b.expiresAt).take limit.toNat

/-- Delete tokens that expired before an instant, up to a number of them, and count them. -/
def purgeExpired (m : Memory) (cutoff : Instant) (limit : Int) : Nat × Memory :=
  let doomed := m.doomed cutoff limit
  (doomed.length, m.dropTokens doomed)

/-! ### Answering -/

/-- Answer a request. -/
def answer (m : Memory) : (r : Store.Request) → Outcome r.Reply
  | .createSession s => m.createSession s
  | .findSession id => (.ok (m.session? id), m)
  | .listSessions user includeRevoked => (.ok (m.listSessions user includeRevoked), m)
  | .bindThumbprint id thumbprint => m.bindThumbprint id thumbprint
  | .touchSession id now => m.touchSession id now
  | .revokeSession id now => m.revokeSession id now
  | .revokeUserSessions user now =>
    let (count, m) := m.revokeUserSessions user now
    (.ok count, m)
  | .issueToken t policy now => m.issueToken t policy now
  | .rotateToken presented id hash now lifetime => m.rotateToken presented id hash now lifetime
  | .revokeToken hash now => m.revokeToken hash now
  | .findToken hash => (.ok (m.tokenByHash? hash), m)
  | .isCurrentAndValid hash now => (.ok (m.isCurrentAndValid hash now), m)
  | .sessionTokens session => (.ok (m.sessionTokens session), m)
  | .purgeExpired cutoff limit =>
    let (count, m) := m.purgeExpired cutoff limit
    (.ok count, m)

end Memory

end SessionKeeper
