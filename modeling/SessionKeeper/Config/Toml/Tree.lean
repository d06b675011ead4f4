import SessionKeeper.Config.Value

/-!
The tables of a TOML document while it is read. A table remembers how it came about, because that
decides whether it may be opened or added to later: a table is opened by a heading once at most, and
a key with dots adds only to tables that keys with dots have made.
-/

namespace SessionKeeper.Config.Toml

/-- How a table came about. -/
inductive Origin where
  /-- A heading leads through it. -/
  | implied
  /-- A heading has opened it. -/
  | opened
  /-- A key with dots leads through it. -/
  | dotted
deriving DecidableEq, Repr

/-- What stands under a key. -/
inductive Node where
  /-- A value, to which nothing can be added. -/
  | leaf (v : Value)
  /-- A table. -/
  | table (origin : Origin) (members : List (String × Node))
  /-- A list of tables, the newest first. -/
  | tables (items : List (List (String × Node)))

namespace Node

/-- The nodes of a table under their keys. -/
abbrev Members := List (String × Node)

/-- Put another node under a key that is there. -/
def setKey (key : String) (n : Node) (ms : Members) : Members :=
  ms.map fun (k, old) => if k = key then (k, n) else (k, old)

/-- Change the table that a heading's path leads to. The newest of a list of tables is meant. -/
def descend (f : Members → Option Members) : List String → Members → Option Members
  | [], ms => f ms
  | key :: path, ms =>
    match ms.lookup key with
    | none => (descend f path []).map fun sub => ms ++ [(key, table .implied sub)]
    | some (table origin sub) =>
      (descend f path sub).map fun sub => setKey key (table origin sub) ms
    | some (tables (newest :: older)) =>
      (descend f path newest).map fun newest => setKey key (tables (newest :: older)) ms
    | some _ => none

/-- Open the table under a key. -/
def openTable (key : String) (ms : Members) : Option Members :=
  match ms.lookup key with
  | none => some (ms ++ [(key, table .opened [])])
  | some (table .implied sub) => some (setKey key (table .opened sub) ms)
  | some _ => none

/-- Open a new table of the list under a key. -/
def openItem (key : String) (ms : Members) : Option Members :=
  match ms.lookup key with
  | none => some (ms ++ [(key, tables [[]])])
  | some (tables items) => some (setKey key (tables ([] :: items)) ms)
  | some _ => none

/-- Enter a value under a key with dots. `free` says whether the table may take it. -/
def put (v : Value) (free : Bool) : List String → Members → Option Members
  | [], _ => none
  | [key], ms =>
    if free && (ms.lookup key).isNone then some (ms ++ [(key, leaf v)]) else none
  | key :: path, ms =>
    match ms.lookup key with
    | none => (put v true path []).map fun sub => ms ++ [(key, table .dotted sub)]
    | some (table .opened _) => none
    | some (table origin sub) =>
      (put v (origin == .dotted) path sub).map fun sub => setKey key (table origin sub) ms
    | some (tables (newest :: older)) =>
      (put v false path newest).map fun newest => setKey key (tables (newest :: older)) ms
    | some _ => none

mutual

/-- The value that a node has become. -/
def toValue : Node → Value
  | leaf v => v
  | table _ ms => .table (toMembers ms)
  | tables items => .list (toItems items).reverse

/-- The members of a table. -/
def toMembers : Members → Config.Members
  | [] => []
  | (key, n) :: ms => (key, n.toValue) :: toMembers ms

/-- The tables of a list. -/
def toItems : List Members → List Value
  | [] => []
  | ms :: items => .table (toMembers ms) :: toItems items

end

end Node

end SessionKeeper.Config.Toml
