import SessionKeeper.Database.Tokens

/-!
The database as a store of sessions and refresh tokens: what is asked of the store is answered by
asking the database.
-/

namespace SessionKeeper.Database

/-- The operation that answers a request. -/
def action : (r : Store.Request) → Action r.Reply
  | .createSession s => Sessions.create s
  | .findSession id => Sessions.find id
  | .listSessions user includeRevoked => Sessions.list user includeRevoked
  | .bindThumbprint id thumbprint => Sessions.bindThumbprint id thumbprint
  | .touchSession id now => Sessions.touch id now
  | .revokeSession id now => Sessions.revoke id now
  | .revokeUserSessions user now => Sessions.revokeAll user now
  | .issueToken t policy now => Tokens.issue t policy now
  | .rotateToken presented id hash now lifetime => Tokens.rotate presented id hash now lifetime
  | .revokeToken hash now => Tokens.revoke hash now
  | .findToken hash => Tokens.find hash
  | .isCurrentAndValid hash now => Tokens.isCurrentAndValid hash now
  | .sessionTokens session => Tokens.list session
  | .purgeExpired cutoff limit => Tokens.purge cutoff limit

/-- Answer a request of the store. -/
def answer (r : Store.Request) : Prog signature (Except Error r.Reply) := (action r).run

end SessionKeeper.Database
