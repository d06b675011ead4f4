import SessionKeeper.Binary64.Text
import SessionKeeper.Record
import SessionKeeper.Text.Blank

/-!
Values as sources of configuration give them, and the lenient way in which settings are read off
them: a source may not be able to say more than a text, so texts, numbers and truth values stand in
for one another where their meaning is plain.
-/

namespace SessionKeeper.Config

/-- A value of a source of configuration. -/
inductive Value where
  /-- No value. -/
  | nil
  /-- A truth value. -/
  | flag (b : Bool)
  /-- An integer of a signed 64-bit word. -/
  | int (n : Int)
  /-- Any other number. -/
  | float (x : Binary64)
  /-- A text. -/
  | text (s : String)
  /-- A list of values. -/
  | list (items : List Value)
  /-- Values under distinct keys. -/
  | table (members : List (String × Value))

instance : Inhabited Value := ⟨.nil⟩

/-- The members of a table. -/
abbrev Members := List (String × Value)

namespace Value

/-! ### Reading settings -/

/-- The words for yes. -/
def yesWords : List String := ["true", "on", "yes"]

/-- The words for no. -/
def noWords : List String := ["false", "off", "no"]

/-- The truth value that a word stands for. -/
def flagOfWord? (s : String) : Option Bool :=
  let word := Text.lowerAscii s
  if yesWords.contains word then some true
  else if noWords.contains word then some false
  else none

/-- The number that a truth value counts as. -/
def numberOfFlag (b : Bool) : Nat := if b then 1 else 0

/-- A truth value. Numbers count as true unless they are zero. -/
def toFlag? : Value → Option Bool
  | flag b => some b
  | int n => some (n != 0)
  | float x => some x.isNonzero
  | text "1" => some true
  | text "0" => some false
  | text s => flagOfWord? s
  | _ => none

/-- A text. Numbers and truth values are written out. -/
def toText? : Value → Option String
  | text s => some s
  | flag b => some (if b then "true" else "false")
  | int n => some (toString n)
  | float x => some x.toText
  | _ => none

/-- An integer of a signed 64-bit word. A number with a fraction is rounded, and one that is too
great is the greatest there is. -/
def toInt64? : Value → Option Int
  | int n => some n
  | flag b => some (numberOfFlag b)
  | float x => some (x.toIntBetween Text.minInt64 Text.maxInt64)
  | text s =>
    match flagOfWord? s with
    | some b => some (numberOfFlag b)
    | none => Text.readInt64? s
  | _ => none

/-- An integer of an unsigned 64-bit word, likewise. -/
def toUInt64? : Value → Option Nat
  | int n => n.toNat?
  | flag b => some (numberOfFlag b)
  | float x => some (x.toIntBetween 0 (UInt64.size - 1)).toNat
  | text s =>
    match flagOfWord? s with
    | some b => some (numberOfFlag b)
    | none => Text.readUInt64? s
  | _ => none

/-- A natural number below a bound. -/
def toNatBelow? (bound : Nat) (v : Value) : Option Nat := v.toUInt64?.filter (· < bound)

/-- The name of a case: a text, or the only key of a table. -/
def toCaseName? : Value → Option String
  | text s => some s
  | table [(key, _)] => some key
  | _ => none

/-- The fields of a record: the members of a table, or the values of a list in the order of the
fields. What is not known is ignored. -/
def slots? (names : List String) : Value → Option (Slots Value)
  | table members =>
    some fun name =>
      match members.lookup name with
      | some v => .given v
      | none => .missing
  | list items =>
    some fun name =>
      match (names.zip items).lookup name with
      | some v => .given v
      | none => .cutOff
  | _ => none

/-- How settings are read off values of configuration. -/
def format : Format Value :=
  { record? := slots?
    text? := toText?
    flag? := toFlag?
    int64? := toInt64?
    natBelow? := toNatBelow?
    caseName? := toCaseName? }

end Value

end SessionKeeper.Config
