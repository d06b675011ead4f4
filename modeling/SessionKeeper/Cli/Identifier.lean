import SessionKeeper.Error
import SessionKeeper.Text.Blank
import SessionKeeper.Uuid

/-!
Identifiers as they are given on the command line: in any written form, with blanks around it.
-/

namespace SessionKeeper.Cli

/-- Read an identifier. -/
def readUuid (text : String) : Except Error Uuid :=
  match Uuid.ofText? (Text.trim text) with
  | some u => .ok u
  | none => .error (.because .validation "Invalid UUID" "not an identifier")

end SessionKeeper.Cli
