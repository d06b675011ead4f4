import SessionKeeper.Service.Cleanup

/-!
Cleanup cycles that never overlap. A job holds a flag: a call that finds it set is skipped, any
other sets it and starts a cycle. The flag is cleared when the cycle ends, in whatever way: with a
report, with an error, or because it is given up half-way.
-/

namespace SessionKeeper

/-- What is left to do of a cycle. -/
abbrev Cycle := Prog Service.signature (Except Error CleanupReport)

/-- A job and the cycles that it has started, each under the ticket of its call. -/
structure CleanupJob where
  /-- The flag. -/
  running : Bool := false
  /-- The cycles in progress. -/
  cycles : List (Nat × Cycle) := []

namespace CleanupJob

/-- The cycle that a call starts. -/
def cycleOf (s : CleanupSettings) : Cycle := (Cleanup.runOnce s).run

/-- Start a cycle, unless one is running. -/
def begin? (job : CleanupJob) (ticket : Nat) (cycle : Cycle) : Option CleanupJob :=
  if job.running then none
  else some { running := true, cycles := job.cycles ++ [(ticket, cycle)] }

/-- The cycle with the given ticket is over or given up. -/
def release (job : CleanupJob) (ticket : Nat) : CleanupJob :=
  { running := false, cycles := job.cycles.filter fun (t, _) => t != ticket }

/-- The cycle with the given ticket has come as far as `rest`. -/
def suspend (job : CleanupJob) (ticket : Nat) (rest : Cycle) : CleanupJob :=
  { job with cycles := job.cycles.map fun (t, c) => if t == ticket then (t, rest) else (t, c) }

/-- What has become of a call. -/
inductive Progress where
  /-- It was skipped. -/
  | skipped
  /-- Its cycle goes on. -/
  | underway
  /-- Its cycle is over. -/
  | done (result : Except Error CleanupReport)

/-- Note how far a cycle has come. -/
def settle (job : CleanupJob) (ticket : Nat) : Cycle → Progress × CleanupJob
  | .pure result => (.done result, job.release ticket)
  | rest => (.underway, job.suspend ticket rest)

section Running

variable {m : Type → Type} [Monad m]

/-- Call the job: start a cycle and follow it as far as `advance` does, or skip it. -/
def call (advance : Cycle → m Cycle) (s : CleanupSettings) (ticket : Nat) (job : CleanupJob) :
    m (Progress × CleanupJob) :=
  match job.begin? ticket (cycleOf s) with
  | none => pure (.skipped, job)
  | some job => do return job.settle ticket (← advance (cycleOf s))

/-- Follow a cycle in progress as far as `advance` does. -/
def resume (advance : Cycle → m Cycle) (ticket : Nat) (job : CleanupJob) :
    m (Progress × CleanupJob) :=
  match job.cycles.lookup ticket with
  | none => pure (.skipped, job)
  | some cycle => do return job.settle ticket (← advance cycle)

/-- Call the job once for each ticket, one call after the other. -/
def callEach (advance : Cycle → m Cycle) (s : CleanupSettings) :
    List Nat → CleanupJob → m (List (Nat × Progress) × CleanupJob)
  | [], job => pure ([], job)
  | ticket :: tickets, job => do
    let (progress, job) ← call advance s ticket job
    let (others, job) ← callEach advance s tickets job
    return ((ticket, progress) :: others, job)

/-- Follow every cycle that goes on as far as `advance` does. -/
def resumeEach (advance : Cycle → m Cycle) :
    List (Nat × Progress) → CleanupJob → m (List (Nat × Progress) × CleanupJob)
  | [], job => pure ([], job)
  | (ticket, .underway) :: calls, job => do
    let (progress, job) ← resume advance ticket job
    let (others, job) ← resumeEach advance calls job
    return ((ticket, progress) :: others, job)
  | call :: calls, job => do
    let (others, job) ← resumeEach advance calls job
    return (call :: others, job)

end Running

end CleanupJob

end SessionKeeper
