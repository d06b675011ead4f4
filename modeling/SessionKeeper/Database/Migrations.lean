import SessionKeeper.Database.Client

/-!
Migrations, which bring the tables of a database up to date. Each is run once, in its own
transaction and in the order of the versions. Nothing is run on a database on which a migration was
left unfinished or on which one has been run that is not known; a migration that is no longer what
was run stops the run where it stands.
-/

namespace SessionKeeper.Database.Migrations

/-- The known migrations. -/
def all : List Migration :=
  [⟨20240601000001, "content schema"⟩, ⟨20240601000002, "auth schema"⟩]

/-- Why migrations cannot be run. -/
inductive Obstacle where
  /-- A migration was left unfinished. -/
  | unfinished (version : Nat)
  /-- A migration has been run that is not known. -/
  | unknown (version : Nat)
  /-- A migration is no longer what was run. -/
  | altered (version : Nat)
  /-- A migration failed. -/
  | failed (f : Failure)

/-- What a person reads about an obstacle. -/
def Obstacle.text : Obstacle → String
  | .unfinished version =>
    "migration " ++ toString version ++ " is partially applied; fix and remove row from " ++
      "migrations table"
  | .unknown version =>
    "migration " ++ toString version ++ " was previously applied but is missing in the resolved " ++
      "migrations"
  | .altered version =>
    "migration " ++ toString version ++ " was previously applied but has been modified"
  | .failed f => "while executing migrations: " ++ f.text

/-- The error of a run that met an obstacle. -/
def Obstacle.toError (o : Obstacle) : Error := .because .database "Failed to run migrations" o.text

/-- What keeps any migration from being run. -/
def obstacle (log : MigrationLog) : Option Obstacle :=
  match log.unfinished with
  | some version => some (.unfinished version)
  | none =>
    (log.finished.find? fun version => !all.any fun m => m.version == version).map .unknown

/-- A part of a run. -/
def orObstacle : Except Failure Unit → Action Unit
  | .ok () => pure ()
  | .error f => throw (Obstacle.failed f).toError

/-- Run one migration in its own transaction. -/
def apply (m : Migration) : Action Unit := do
  orObstacle (← ExceptT.lift (ask .begin))
  match ← ExceptT.lift (ask (.migrate m)) with
  | .error f => abandon (Obstacle.failed f).toError
  | .ok () =>
    match ← ExceptT.lift (ask .commit) with
    | .error f => abandon (Obstacle.failed f).toError
    | .ok () => return ()

/-- Run those of the given migrations that have not been run. -/
def applyMissing (log : MigrationLog) : List Migration → Action Unit
  | [] => pure ()
  | m :: ms => do
    if log.finished.contains m.version then
      if log.altered.contains m.version then throw (Obstacle.altered m.version).toError
    else apply m
    applyMissing log ms

/-- Bring a database up to date. -/
def run : Action Unit := do
  let log : MigrationLog ← ExceptT.lift (ask .migrationLog)
  match obstacle log with
  | some o => throw o.toError
  | none => applyMissing log all

end SessionKeeper.Database.Migrations
