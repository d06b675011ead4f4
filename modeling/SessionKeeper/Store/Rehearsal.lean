import SessionKeeper.Store.Memory

/-!
A store in memory that can be made to fail. Faults are set up by the name of an operation and come
in the order in which they were set up; a purge can be told what to answer. Every operation that is
asked for is noted.
-/

namespace SessionKeeper

namespace Store.Request

/-- The name of the operation that is asked for. -/
def operation : Store.Request → String
  | .createSession _ => "create_session"
  | .findSession _ => "find_session"
  | .listSessions _ _ => "list_user_sessions"
  | .bindThumbprint _ _ => "bind_thumbprint"
  | .touchSession _ _ => "touch_session"
  | .revokeSession _ _ => "revoke_session"
  | .revokeUserSessions _ _ => "revoke_user_sessions"
  | .issueToken _ _ _ => "issue_token"
  | .rotateToken _ _ _ _ _ => "rotate_token"
  | .revokeToken _ _ => "revoke_token"
  | .findToken _ => "find_token"
  | .isCurrentAndValid _ _ => "is_current_and_valid"
  | .sessionTokens _ => "session_tokens"
  | .purgeExpired _ _ => "purge_expired_tokens"

/-- How an operation is noted: by its name, and a purge also by its limit. -/
def note : Store.Request → String
  | .purgeExpired _ limit => "purge_expired_tokens " ++ toString limit
  | r => r.operation

/-- Whether a purge is asked for. -/
def isPurge : Store.Request → Bool
  | .purgeExpired _ _ => true
  | _ => false

end Store.Request

/-- A fault that an operation will meet. -/
structure Fault where
  /-- The operation. -/
  operation : String
  /-- The error it ends with. -/
  error : Error
  /-- How often. -/
  times : Nat

/-- A store in memory with its faults. -/
structure Rehearsal where
  /-- The store. -/
  memory : Memory := {}
  /-- The faults to come. -/
  faults : List Fault := []
  /-- The counts that the next purges answer. -/
  purgeCounts : List Nat := []
  /-- The operations that have been asked for, in order. -/
  calls : List String := []

namespace Rehearsal

/-- The first fault of an operation, and the faults that are left after it. -/
def takeFault (operation : String) : List Fault → Option (Error × List Fault)
  | [] => none
  | f :: faults =>
    if f.operation = operation ∧ 0 < f.times then
      some (f.error, { f with times := f.times - 1 } :: faults)
    else (takeFault operation faults).map fun (e, left) => (e, f :: left)

/-- Let the store answer a request. -/
def answerFromMemory (s : Rehearsal) (r : Store.Request) : Except Error r.Reply × Rehearsal :=
  let (reply, memory) := s.memory.answer r
  (reply, { s with memory })

/-- Answer a request: with a fault if there is one, with the next count if a purge is told what to
answer, and else from the store. -/
def answer (s : Rehearsal) (r : Store.Request) : Except Error r.Reply × Rehearsal :=
  let s := { s with calls := s.calls ++ [r.note] }
  match takeFault r.operation s.faults with
  | some (e, faults) => (.error e.copy, { s with faults })
  | none =>
    match r, s.purgeCounts with
    | .purgeExpired _ _, count :: counts => (.ok count, { s with purgeCounts := counts })
    | r, _ => s.answerFromMemory r

end Rehearsal

end SessionKeeper
