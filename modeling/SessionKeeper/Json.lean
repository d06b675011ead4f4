import SessionKeeper.Text.Digits

/-!
JSON values and their written form. Numbers are kept as written, as decimals of any size, and the
members of an object keep their order and repetitions, so that a reader of a type can decide what
to refuse. Half a surrogate pair, which an escape can spell but a text cannot hold, makes a string
or a key ill-formed; such a string is kept as `none`.
-/

namespace SessionKeeper

/-- A number in decimal notation: `digits · 10 ^ scale`, with a sign. -/
structure Numeral where
  /-- Whether a minus sign stands in front. -/
  negative : Bool
  /-- The digits, without their decimal point. -/
  digits : Nat
  /-- The power of ten by which the digits count. -/
  scale : Int
  /-- Whether it is written with neither fraction nor exponent. -/
  integral : Bool
deriving DecidableEq, Repr

namespace Numeral

/-- The numeral of an integer. -/
def ofInt (n : Int) : Numeral := ⟨n < 0, n.natAbs, 0, true⟩

/-- The integer that a numeral denotes. Minus zero is none, and neither is anything written with a
fraction or an exponent. -/
def toInt? (n : Numeral) : Option Int :=
  if !n.integral then none
  else if !n.negative then some n.digits
  else if n.digits = 0 then none
  else some (-(n.digits : Int))

/-- The written form. -/
def toText (n : Numeral) : String :=
  let sign := if n.negative then "-" else ""
  if n.integral then sign ++ toString n.digits
  else sign ++ toString n.digits ++ "e" ++ toString n.scale

@[simp] theorem toInt?_ofInt (n : Int) : (ofInt n).toInt? = some n := by
  by_cases h : n < 0
  · have digits : n.natAbs ≠ 0 := by omega
    have value : -(n.natAbs : Int) = n := by omega
    simp only [toInt?, ofInt, h, digits, value, decide_true, Bool.not_true, Bool.false_eq_true,
      if_false]
  · have value : (n.natAbs : Int) = n := by omega
    simp only [toInt?, ofInt, h, value, decide_false, Bool.not_true, Bool.not_false,
      Bool.false_eq_true, if_false, if_true]

end Numeral

/-- A JSON value. -/
inductive Json where
  /-- The value `null`. -/
  | null
  /-- A truth value. -/
  | bool (b : Bool)
  /-- A number. -/
  | number (n : Numeral)
  /-- A string, `none` if it is ill-formed. -/
  | string (s : Option String)
  /-- A list of values. -/
  | array (items : List Json)
  /-- A list of keys with values; a key is `none` if it is ill-formed. -/
  | object (members : List (Option String × Json))
deriving Repr

namespace Json

instance : Inhabited Json := ⟨null⟩

/-- A string. -/
def str (s : String) : Json := string (some s)

/-- An integer. -/
def int (n : Int) : Json := number (Numeral.ofInt n)

/-- An object with the given members. -/
def obj (members : List (String × Json)) : Json :=
  object (members.map fun (k, v) => (some k, v))

/-- A value that may be missing; `null` stands for none. -/
def ofOption {α : Type} (f : α → Json) : Option α → Json
  | none => null
  | some a => f a

/-! ### Writing -/

/-- One character of a string. Quotes, backslashes and control characters are escaped. -/
def escape (c : Char) : List Char :=
  if c = '"' then ['\\', '"']
  else if c = '\\' then ['\\', '\\']
  else if c = '\n' then ['\\', 'n']
  else if c = '\r' then ['\\', 'r']
  else if c = '\t' then ['\\', 't']
  else if c = '\x08' then ['\\', 'b']
  else if c = '\x0c' then ['\\', 'f']
  else if c.toNat < 0x20 then
    ['\\', 'u', '0', '0', Text.hexDigit (c.toNat / 16), Text.hexDigit (c.toNat % 16)]
  else [c]

/-- A string in quotes. -/
def quote (s : String) : String :=
  String.ofList ('"' :: s.toList.flatMap escape ++ ['"'])

/-- The written form of a string or key; an ill-formed one is written as an unpaired surrogate. -/
def quoteOrSurrogate : Option String → String
  | some s => quote s
  | none => "\"\\ud800\""

/-- A line break and the indentation of a nesting depth, two blanks a step. -/
def lineBreak (depth : Nat) : String :=
  "\n" ++ String.ofList (List.replicate (2 * depth) ' ')

mutual

/-- The written form over several lines, of a value that stands at a nesting depth. -/
def prettyAt (depth : Nat) : Json → String
  | null => "null"
  | bool true => "true"
  | bool false => "false"
  | number n => n.toText
  | string s => quoteOrSurrogate s
  | array [] => "[]"
  | array (item :: items) =>
    "[" ++ lineBreak (depth + 1) ++ prettyAt (depth + 1) item ++ prettyItems (depth + 1) items ++
      lineBreak depth ++ "]"
  | object [] => "\x7b\x7d"
  | object ((key, value) :: members) =>
    "\x7b" ++ lineBreak (depth + 1) ++ quoteOrSurrogate key ++ ": " ++ prettyAt (depth + 1) value ++
      prettyMembers (depth + 1) members ++ lineBreak depth ++ "\x7d"

/-- Further values of a list, each behind a comma. -/
def prettyItems (depth : Nat) : List Json → String
  | [] => ""
  | item :: items => "," ++ lineBreak depth ++ prettyAt depth item ++ prettyItems depth items

/-- Further members of an object, each behind a comma. -/
def prettyMembers (depth : Nat) : List (Option String × Json) → String
  | [] => ""
  | (key, value) :: members =>
    "," ++ lineBreak depth ++ quoteOrSurrogate key ++ ": " ++ prettyAt depth value ++
      prettyMembers depth members

end

mutual

/-- The written form on one line, without blanks between the parts. -/
def compact : Json → String
  | null => "null"
  | bool true => "true"
  | bool false => "false"
  | number n => n.toText
  | string s => quoteOrSurrogate s
  | array [] => "[]"
  | array (item :: items) => "[" ++ compact item ++ compactItems items ++ "]"
  | object [] => "\x7b\x7d"
  | object ((key, value) :: members) =>
    "\x7b" ++ quoteOrSurrogate key ++ ":" ++ compact value ++ compactMembers members ++ "\x7d"

/-- Further values of a list, each behind a comma. -/
def compactItems : List Json → String
  | [] => ""
  | item :: items => "," ++ compact item ++ compactItems items

/-- Further members of an object, each behind a comma. -/
def compactMembers : List (Option String × Json) → String
  | [] => ""
  | (key, value) :: members =>
    "," ++ quoteOrSurrogate key ++ ":" ++ compact value ++ compactMembers members

end

/-- The unit of sixteen bits with a given number, as it is escaped. -/
def escapeUnit (n : Nat) : List Char :=
  ['\\', 'u', Text.hexDigit (n / 4096 % 16), Text.hexDigit (n / 256 % 16),
    Text.hexDigit (n / 16 % 16), Text.hexDigit (n % 16)]

/-- A character of a written form in ASCII: all others stand in strings, and are escaped. -/
def escapeAscii (c : Char) : List Char :=
  let n := c.toNat
  if n < 0x7f then [c]
  else if n < 0x10000 then escapeUnit n
  else escapeUnit (0xD800 + (n - 0x10000) / 0x400) ++ escapeUnit (0xDC00 + (n - 0x10000) % 0x400)

/-- The written form on one line, in ASCII. -/
def compactAscii (v : Json) : String := String.ofList (v.compact.toList.flatMap escapeAscii)

mutual

/-- The same value with the members of all objects in the order of their keys. -/
def sortKeys : Json → Json
  | array items => array (sortItems items)
  | object members =>
    object ((sortMembers members).mergeSort fun a b => a.1.getD "" ≤ b.1.getD "")
  | v => v

/-- The same for every value of a list. -/
def sortItems : List Json → List Json
  | [] => []
  | item :: items => sortKeys item :: sortItems items

/-- The same for the value of every member. -/
def sortMembers : List (Option String × Json) → List (Option String × Json)
  | [] => []
  | (key, value) :: members => (key, sortKeys value) :: sortMembers members

end

/-- The written form over several lines. -/
def pretty (v : Json) : String := prettyAt 0 v

mutual

/-- How deep lists and objects are nested; 0 for the other values. -/
def depth : Json → Nat
  | array items => depthOfItems items + 1
  | object members => depthOfMembers members + 1
  | _ => 0

/-- The depth of the deepest value of a list. -/
def depthOfItems : List Json → Nat
  | [] => 0
  | item :: items => max (depth item) (depthOfItems items)

/-- The depth of the deepest value of an object. -/
def depthOfMembers : List (Option String × Json) → Nat
  | [] => 0
  | (_, value) :: members => max (depth value) (depthOfMembers members)

end

end Json

end SessionKeeper
