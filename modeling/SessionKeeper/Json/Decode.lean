import SessionKeeper.Json
import SessionKeeper.Record
import SessionKeeper.Uuid
import SessionKeeper.Instant.Text

/-!
Reading values of a type out of JSON. A record is read from an object, whose unknown keys are
ignored and whose known keys stand there once at most, or from a list that gives its fields in
order.
-/

namespace SessionKeeper

namespace Json

/-- The values that stand under a key. -/
def valuesOf (key : String) (members : List (Option String × Json)) : List Json :=
  members.filterMap fun (k, v) => if k = some key then some v else none

/-- The first value that stands under a key; `null` if there is none. -/
def member (key : String) : Json → Json
  | object members => ((valuesOf key members).head?).getD null
  | _ => null

/-- The values of a list; none for any other value. -/
def items : Json → List Json
  | array vs => vs
  | _ => []

/-- The members of an object with well-formed keys; none for any other value. -/
def members : Json → List (String × Json)
  | object ms => ms.filterMap fun (k, v) => k.map fun k => (k, v)
  | _ => []

/-- The fields that an object gives: every key is well-formed, and no known key is repeated. -/
def slotsOfObject? (names : List String) (members : List (Option String × Json)) :
    Option (Slots Json) :=
  if members.all (fun (k, _) => k.isSome) ∧
      names.all (fun name => (valuesOf name members).length ≤ 1) then
    some fun name =>
      match valuesOf name members with
      | v :: _ => .given v
      | [] => .missing
  else none

/-- The fields that a list gives, one value each and no value more. -/
def slotsOfArray? (names : List String) (items : List Json) : Option (Slots Json) :=
  if items.length ≤ names.length then
    some fun name =>
      match (names.zip items).find? fun (n, _) => n == name with
      | some (_, v) => .given v
      | none => .cutOff
  else none

/-- The fields of a record of the given field names. -/
def slots? (names : List String) : Json → Option (Slots Json)
  | object members => slotsOfObject? names members
  | array items => slotsOfArray? names items
  | _ => none

/-- A truth value. -/
def toBool? : Json → Option Bool
  | bool b => some b
  | _ => none

/-- A well-formed string. -/
def toString? : Json → Option String
  | string s => s
  | _ => none

/-- An integer. -/
def toInt? : Json → Option Int
  | number n => n.toInt?
  | _ => none

/-- An integer of a signed 64-bit word. -/
def toInt64? (v : Json) : Option Int := v.toInt?.filter Text.isInt64

/-- A natural number below a bound. -/
def toNatBelow? (bound : Nat) (v : Json) : Option Nat :=
  match v.toInt? with
  | some (.ofNat n) => if n < bound then some n else none
  | _ => none

/-- A byte. -/
def toByte? (v : Json) : Option UInt8 := (toNatBelow? 256 v).map UInt8.ofNat

/-- A list of bytes. -/
def toBytes? : Json → Option (List UInt8)
  | array items => items.mapM toByte?
  | _ => none

/-- An identifier, in any of its written forms. -/
def toUuid? (v : Json) : Option Uuid := v.toString?.bind Uuid.ofText?

/-- An instant in the interchange form. -/
def toInstant? (v : Json) : Option Instant := v.toString?.bind Instant.ofRfc3339?

/-- A choice between named cases: the name itself, or an object whose only member has the name as
its key and `null` as its value. -/
def toCase? {α : Type} (ofName? : String → Option α) : Json → Option α
  | string (some s) => ofName? s
  | object [(some s, null)] => ofName? s
  | _ => none

/-- An identifier as a string. -/
def ofUuid (u : Uuid) : Json := str u.toText

/-- An instant as a string in the interchange form. -/
def ofInstant (t : Instant) : Json := str t.toRfc3339

end Json

/-- A field that may be `null`, and may be missing from an object. -/
def Slot.optional {α : Type} (read : Json → Option α) : Slot Json → Option (Option α)
  | .given .null => some none
  | .given v => (read v).map some
  | .missing => some none
  | .cutOff => none

end SessionKeeper
