import SessionKeeper.Error
import SessionKeeper.Json
import SessionKeeper.Text.Blank

/-!
Rules on the fields of submitted data. A rule that a value breaks leaves a violation, which says
what was asked and what was given; a form is acceptable when no rule is broken. Rules on a form as
a whole are only looked at when every field by itself is acceptable. Lengths count characters.
-/

namespace SessionKeeper

/-- A broken rule. -/
structure Violation where
  /-- The rule's name. -/
  rule : String
  /-- An explanation, where the rule has one. -/
  message : Option String
  /-- The rule's limits and the offending value. -/
  parameters : List (String × Json)

namespace Violation

/-- A value that should not be blank. -/
def blank (value : String) : Violation :=
  ⟨"blank", some "Value cannot be blank", [("value", .str value)]⟩

/-- A violation as JSON. -/
def toJson (v : Violation) : Json :=
  .obj [("code", .str v.rule), ("message", .ofOption .str v.message),
    ("params", .obj v.parameters)]

/-- What a person reads about a violation. -/
def display (v : Violation) : String := v.message.getD v.rule

end Violation

/-- The broken rules of a form, by field. -/
abbrev Violations := List (String × List Violation)

namespace Violations

/-- The name under which violations of rules on the whole form are listed. -/
def wholeForm : String := "__all__"

/-- The violations of one field. -/
def ofField (field : String) : List Violation → Violations
  | [] => []
  | vs => [(field, vs)]

/-- A rule on the whole form, given as the violation it leaves. -/
def ofForm : Option Violation → Violations
  | none => []
  | some v => [(wholeForm, [v])]

/-- The rules on the whole form, looked at only if no field has a violation. -/
def orElseForm (fields : Violations) (form : Option Violation) : Violations :=
  if fields.isEmpty then ofForm form else fields

/-- Violations as JSON. -/
def toJson (vs : Violations) : Json :=
  .obj (vs.map fun (field, list) => (field, .array (list.map Violation.toJson)))

/-- What a person reads about violations. -/
def display (vs : Violations) : String :=
  "; ".intercalate (vs.map fun (field, list) =>
    field ++ ": " ++ ", ".intercalate (list.map Violation.display))

/-- The error of a form that is not acceptable. -/
def toError (vs : Violations) : Error := Error.invalidInput vs.display

/-- Accept a form without violations. -/
def check (vs : Violations) : Except Error Unit :=
  if vs.isEmpty then .ok () else .error vs.toError

end Violations

/-- Limits on the length of a text. -/
structure LengthRule where
  /-- The least number of characters, if there is one. -/
  min : Option Nat
  /-- The greatest number of characters. -/
  max : Option Nat

namespace LengthRule

/-- Whether a text keeps to the limits. -/
def admits (r : LengthRule) (value : String) : Bool :=
  (match r.min with
    | some least => least ≤ value.length
    | none => true) &&
  (match r.max with
    | some most => value.length ≤ most
    | none => true)

/-- One limit as a parameter of a violation. -/
def parameter (name : String) : Option Nat → List (String × Json)
  | some n => [(name, .int n)]
  | none => []

/-- The violation that a text leaves. -/
def check (r : LengthRule) (value : String) : List Violation :=
  if r.admits value then []
  else
    [⟨"length", none,
      parameter "min" r.min ++ parameter "max" r.max ++ [("value", .str value)]⟩]

/-- The violation that a text leaves, if there is a text. -/
def check? (r : LengthRule) : Option String → List Violation
  | some value => r.check value
  | none => []

end LengthRule

/-- The rule that a text is not blank. -/
def checkNotBlank (value : String) : List Violation :=
  if Text.allBlank value then [Violation.blank value] else []

end SessionKeeper
