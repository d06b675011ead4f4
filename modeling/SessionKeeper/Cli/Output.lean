import SessionKeeper.Instant.Text

/-!
Lines that the command line prints: what has been done, what deserves attention, and values under
their names.
-/

namespace SessionKeeper.Cli

/-- The line that tells of a success. -/
def successLine (message : String) : String := "✓ " ++ message

/-- The line that tells of something to look at. -/
def warningLine (message : String) : String := "⚠ " ++ message

/-- The line that tells of a failure. -/
def failureLine (message : String) : String := "✗ " ++ message

/-- A value under its name. -/
def entryLine (name value : String) : String :=
  "  " ++ Text.padRight 24 (name ++ ":") ++ " " ++ value

/-- What stands in place of a value that there is none of. -/
def absent : String := "-"

/-- A value or its absence. -/
def orAbsent {α : Type} (f : α → String) : Option α → String
  | some a => f a
  | none => absent

/-- An instant that may be missing. -/
def instantOrAbsent (t : Option Instant) : String := orAbsent Instant.toCell t

end SessionKeeper.Cli
