import SessionKeeper.Config.KeyPath
import SessionKeeper.Config.Toml
import SessionKeeper.Json.Reader

/-!
Documents of configuration, in TOML or in JSON. The extension of a file's name says which. In JSON a
number is an integer if it is written as one and fits a signed 64-bit word; any other number is read
quickly rather than exactly: as many of its first digits as fit an unsigned 64-bit word are rounded
once, and scaled by a rounded power of ten.
-/

namespace SessionKeeper.Config

/-! ### Numbers of JSON -/

/-- The first digits of a number, as many as fit an unsigned 64-bit word, and how many are left
out. `fuel` bounds the number of digits. -/
def leadingDigits : Nat → Nat → Nat → Nat × Nat
  | 0, digits, dropped => (digits, dropped)
  | fuel + 1, digits, dropped =>
    if digits < UInt64.size then (digits, dropped)
    else leadingDigits fuel (digits / 10) (dropped + 1)

/-- The greatest power of ten that is scaled by at once. -/
def maxPower : Nat := 308

/-- Scale a number by a power of ten. A number that becomes infinite is none. Powers below the least
are divided off step by step, of which `fuel` bounds the number. -/
def scaleByTen? : Nat → Binary64 → Int → Option Binary64
  | fuel, x, power =>
    match Binary64.ofDecimal false 1 (min power.natAbs maxPower) with
    | .finite _ n f =>
      if power.natAbs ≤ maxPower then
        if 0 ≤ power then
          match x.mulFinite n f with
          | .infinite _ => none
          | y => some y
        else some (x.divFinite n f)
      else if !x.isNonzero then some x
      else if 0 ≤ power then none
      else
        match fuel with
        | 0 => some x
        | fuel + 1 => scaleByTen? fuel (x.divFinite n f) (power + maxPower)
    | _ => none

/-- A number that is no integer. -/
def floatOfNumeral? (n : Numeral) : Option Binary64 :=
  let (digits, dropped) := leadingDigits (toString n.digits).length n.digits 0
  (scaleByTen? 4 (.ofRatio n.negative digits 1) (n.scale + dropped))

/-- A number. -/
def valueOfNumeral? (n : Numeral) : Option Value :=
  match n.toInt?.filter Text.isInt64 with
  | some i => some (.int i)
  | none => (floatOfNumeral? n).map .float

/-! ### JSON -/

mutual

/-- The value that a JSON value is. Of several members with one key the last counts. -/
def valueOfJson? : Json → Option Value
  | .null => some .nil
  | .bool b => some (.flag b)
  | .number n => valueOfNumeral? n
  | .string s => s.map .text
  | .array items => (valuesOfJson? items).map .list
  | .object members => (membersOfJson? [] members).map .table

/-- The values of a list. -/
def valuesOfJson? : List Json → Option (List Value)
  | [] => some []
  | item :: items =>
    match valueOfJson? item, valuesOfJson? items with
    | some v, some vs => some (v :: vs)
    | _, _ => none

/-- The members of an object, entered after others. -/
def membersOfJson? (before : Members) : List (Option String × Json) → Option Members
  | [] => some before
  | (none, _) :: _ => none
  | (some key, item) :: members =>
    match valueOfJson? item with
    | some v => membersOfJson? (Value.change (fun _ => v) key before) members
    | none => none

end

/-- How deep a JSON document may be nested. -/
def maxJsonDepth : Nat := 127

/-- Read a JSON document, which has to be an object. -/
def membersOfJsonText? (s : String) : Option Members :=
  match Json.ofText? s with
  | some v =>
    if v.depth ≤ maxJsonDepth then
      match valueOfJson? v with
      | some (.table members) => some members
      | _ => none
    else none
  | none => none

/-! ### Kinds of document -/

/-- The kinds of document. -/
inductive DocumentKind where
  /-- TOML. -/
  | toml
  /-- JSON. -/
  | json
deriving DecidableEq, Repr

namespace DocumentKind

/-- All kinds, in the order in which they are looked for. -/
def all : List DocumentKind := [.toml, .json]

/-- The extension of a file of a kind. -/
def extension : DocumentKind → String
  | .toml => "toml"
  | .json => "json"

/-- Read a document. -/
def read? : DocumentKind → String → Option Members
  | .toml => Toml.ofText?
  | .json => membersOfJsonText?

end DocumentKind

end SessionKeeper.Config
