/-!
Fields of records as a source of data gives them. A source either names the fields, and then some
may be missing, or lists their values in order, and then it may end early. A field that is not
given may have a default.
-/

namespace SessionKeeper

/-- What a source of values of type `V` says about one field. -/
inductive Slot (V : Type) where
  /-- The field has this value. -/
  | given (v : V)
  /-- The field is not named. -/
  | missing
  /-- The list ended before this field. -/
  | cutOff

/-- The fields of a record, by name. -/
abbrev Slots (V : Type) := String → Slot V

namespace Slot

variable {V α : Type}

/-- A field that has to be given. -/
def required (read : V → Option α) : Slot V → Option α
  | .given v => read v
  | _ => none

/-- A field that has a default. -/
def withDefault (default : α) (read : V → Option α) : Slot V → Option α
  | .given v => read v
  | _ => some default

end Slot

/-- How values of type `V` are read as the types that settings are made of. -/
structure Format (V : Type) where
  /-- A record with the given field names. -/
  record? : List String → V → Option (Slots V)
  /-- A text. -/
  text? : V → Option String
  /-- A truth value. -/
  flag? : V → Option Bool
  /-- An integer of a signed 64-bit word. -/
  int64? : V → Option Int
  /-- A natural number below a bound. -/
  natBelow? : Nat → V → Option Nat
  /-- The name of a case. -/
  caseName? : V → Option String

end SessionKeeper
