import SessionKeeper.Config.Value

/-!
Where a source puts its values. A key with dots and numbers in brackets leads into tables and
lists; whatever stands in the way gives way to a table or a list. Tables are merged, and all other
values take the place of what was there before.
-/

namespace SessionKeeper.Config

/-- A step into a value. -/
inductive Step where
  /-- To the value under a key of a table. -/
  | member (key : String)
  /-- To a place of a list, counted from its end if it is negative. -/
  | item (index : Int)
deriving DecidableEq, Repr

namespace Step

/-- A character of a key. -/
def isKeyChar (c : Char) : Bool := c.isAlphanum || c == '_' || c == '-'

/-- The steps behind the first key of a path. `fuel` bounds their number. -/
def readRest? : Nat → List Char → Option (List Step)
  | _, [] => some []
  | 0, _ => none
  | fuel + 1, '.' :: cs =>
    let key := cs.takeWhile isKeyChar
    if key.isEmpty then none
    else (readRest? fuel (cs.dropWhile isKeyChar)).map (.member (String.ofList key) :: ·)
  | fuel + 1, '[' :: cs =>
    match cs.dropWhile (· != ']') with
    | ']' :: rest =>
      let inside := cs.takeWhile (· != ']')
      if inside.head? = some '+' then none
      else
        match Text.readInt64? (String.ofList inside) with
        | some index => (readRest? fuel rest).map (.item index :: ·)
        | none => none
    | _ => none
  | _, _ => none

/-- Read a path, which starts with a key. -/
def readPath? (s : String) : Option (List Step) :=
  let cs := s.toList
  let key := cs.takeWhile isKeyChar
  if key.isEmpty then none
  else (readRest? cs.length (cs.dropWhile isKeyChar)).map (.member (String.ofList key) :: ·)

/-- The path that a key is: the one that it spells, or the key as it stands. -/
def pathOf (key : String) : List Step := (readPath? key).getD [.member key]

end Step

namespace Value

/-- The members of a table; any other value gives way to an empty table. -/
def membersOf : Value → Members
  | table members => members
  | _ => []

/-- The values of a list; any other value gives way to an empty list. -/
def itemsOf : Value → List Value
  | list items => items
  | _ => []

/-- Change the value under a key, which is none if the key is new. -/
def change (f : Value → Value) (key : String) : Members → Members
  | [] => [(key, f nil)]
  | (k, v) :: members => if k = key then (k, f v) :: members else (k, v) :: change f key members

/-- Change the value at a place, with empty places before it if the list is too short. -/
def changeAt (f : Value → Value) : Nat → List Value → List Value
  | 0, [] => [f nil]
  | 0, v :: items => f v :: items
  | n + 1, [] => nil :: changeAt f n []
  | n + 1, v :: items => v :: changeAt f n items

/-- Change the value at a place that may be counted from the end; a list that is too short for that
grows at its front. -/
def changeItem (f : Value → Value) (index : Int) (items : List Value) : List Value :=
  let place := if index < 0 then index + items.length else index
  if place < 0 then
    changeAt f 0 (List.replicate place.natAbs nil ++ items)
  else changeAt f place.toNat items

/-- Change the value at the end of a path. -/
def changePath (f : Value → Value) : List Step → Value → Value
  | [], v => f v
  | .member key :: path, v => table (change (changePath f path) key v.membersOf)
  | .item index :: path, v => list (changeItem (changePath f path) index v.itemsOf)

mutual

/-- What becomes of a value when another is set in its place. -/
def merge (old : Value) : Value → Value
  | table members => table (mergeMembers old.membersOf members)
  | v => v

/-- What becomes of the members of a table when others are set. -/
def mergeMembers (old : Members) : Members → Members
  | [] => old
  | (key, v) :: members => mergeMembers (change (fun o => merge o v) key old) members

end

/-- Set the members that a source gives, one after the other, each at the path that its key is. -/
def setAll (old : Value) (members : Members) : Value :=
  members.foldl (fun v (key, new) => v.changePath (fun o => o.merge new) (Step.pathOf key)) old

end Value

end SessionKeeper.Config
