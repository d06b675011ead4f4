import SessionKeeper.Service.Effect

/-!
The cleanup service: deleting tokens that expired longer ago than they are kept. A cycle purges the
store again and again, since each purge can free the next tokens of a chain, until a purge finds
nothing or as many tokens have been deleted as the settings allow.
-/

namespace SessionKeeper

/-- What a cleanup cycle has done. -/
structure CleanupReport where
  /-- The instant before which tokens had to be expired. -/
  cutoff : Instant
  /-- The number of deleted tokens. -/
  deleted : Nat
  /-- The number of purges that deleted a token. -/
  passes : Nat
deriving DecidableEq, Repr

namespace CleanupReport

/-- A report as JSON. -/
def toJson (r : CleanupReport) : Json :=
  .obj [("cutoff", .ofInstant r.cutoff), ("deleted", .int r.deleted), ("passes", .int r.passes)]

end CleanupReport

/-- The calendar does not reach back as far as tokens are kept. -/
def Error.retentionOutOfRange : Error := .setting "cleanup.retention_hours is out of range"

namespace Cleanup

open Service

/-- Purge until a purge finds nothing or `budget` tokens have been deleted. -/
def purgeAll (cutoff : Instant) (budget deleted passes : Nat) : Action CleanupReport :=
  if _below : deleted < budget then do
    let removed : Nat ← store (.purgeExpired cutoff ((budget - deleted : Nat) : Int))
    if _nothing : removed = 0 then return ⟨cutoff, deleted, passes⟩
    else purgeAll cutoff budget (deleted + removed) (passes + 1)
  else return ⟨cutoff, deleted, passes⟩
termination_by budget - deleted

/-- The instant before which tokens have to be expired to be deleted. -/
def cutoff (retention : Span) (now : Instant) : Except Error Instant :=
  match now.sub? retention with
  | some t => .ok t
  | none => .error .retentionOutOfRange

/-- Run one cleanup cycle. -/
def runOnce (s : CleanupSettings) : Action CleanupReport := do
  let budget ← liftExcept s.budget
  let now ← Service.now
  let retention ← liftExcept s.retention
  let cutoff ← liftExcept (cutoff retention now)
  purgeAll cutoff budget.toNat 0 0

end Cleanup

end SessionKeeper
