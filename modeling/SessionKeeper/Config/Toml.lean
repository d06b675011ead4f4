import SessionKeeper.Config.Toml.Scalars
import SessionKeeper.Config.Toml.Tree

/-!
Reading TOML documents: lines that give a key its value, under headings that open tables. Each
reader takes what it recognises off the front of the text and returns the rest.
-/

namespace SessionKeeper.Config.Toml

/-- The text without the blanks, line ends and comments that it starts with. `inComment` says that a
comment is going on. -/
def skipFiller (inComment : Bool) : List Char → List Char
  | [] => []
  | '\n' :: rest => skipFiller false rest
  | '\r' :: '\n' :: rest => skipFiller false rest
  | c :: rest =>
    if inComment then
      if isLineChar c then skipFiller true rest else c :: rest
    else if isSpace c then skipFiller false rest
    else if c = '#' then skipFiller true rest
    else c :: rest

/-- How deep lists and tables may be nested within a value. -/
def maxDepth : Nat := 79

mutual

/-- A value. `depth` bounds the nesting and `fuel` the steps, for which twice the number of
characters is always enough. -/
def readValue (depth : Nat) : Nat → List Char → Option (Value × List Char)
  | 0, _ => none
  | fuel + 1, cs =>
    match cs with
    | '[' :: rest =>
      if depth = 0 then none
      else (readItems (depth - 1) fuel rest).map fun (items, r) => (.list items, r)
    | '\x7b' :: rest =>
      if depth = 0 then none
      else
        match skipSpace rest with
        | '\x7d' :: rest => some (.table [], rest)
        | rest =>
          (readPairs (depth - 1) fuel [] rest).map fun (ms, r) => (.table (Node.toMembers ms), r)
    | '"' :: _ => (readString cs).map fun (s, r) => (.text (String.ofList s), r)
    | '\'' :: _ => (readString cs).map fun (s, r) => (.text (String.ofList s), r)
    | _ => readWord cs

/-- The rest of a list: values with commas between them, and perhaps one behind the last. -/
def readItems (depth : Nat) : Nat → List Char → Option (List Value × List Char)
  | 0, _ => none
  | fuel + 1, cs =>
    match skipFiller false cs with
    | ']' :: rest => some ([], rest)
    | cs => do
      let (v, rest) ← readValue depth fuel cs
      match skipFiller false rest with
      | ',' :: rest =>
        let (vs, rest) ← readItems depth fuel rest
        some (v :: vs, rest)
      | ']' :: rest => some ([v], rest)
      | _ => none

/-- The rest of a table in braces: keys with their values, and commas between them. -/
def readPairs (depth : Nat) : Nat → Node.Members → List Char → Option (Node.Members × List Char)
  | 0, _, _ => none
  | fuel + 1, ms, cs => do
    let cs := skipSpace cs
    let (key, rest) ← readKey cs.length cs
    match skipSpace rest with
    | '=' :: rest =>
      let (v, rest) ← readValue depth fuel (skipSpace rest)
      let ms ← Node.put v true key ms
      match skipSpace rest with
      | ',' :: rest => readPairs depth fuel ms rest
      | '\x7d' :: rest => some (ms, rest)
      | _ => none
    | _ => none

end

/-- The rest of the text behind a line that has nothing more to say. -/
def endLine (cs : List Char) : Option (List Char) :=
  let cs :=
    match skipSpace cs with
    | '#' :: rest => rest.dropWhile isLineChar
    | rest => rest
  match cs with
  | [] => some []
  | '\n' :: rest => some rest
  | '\r' :: '\n' :: rest => some rest
  | _ => none

/-- A document as far as it has been read. -/
structure Draft where
  /-- The tables. -/
  root : Node.Members := []
  /-- The path of the last heading. -/
  heading : List String := []

namespace Draft

/-- Enter a value under a key of the table that the last heading opened. -/
def put (d : Draft) (key : List String) (v : Value) : Option Draft :=
  (Node.descend (Node.put v true key) d.heading d.root).map fun root => { d with root }

/-- Open what the last key of a heading's path names. -/
def headed (d : Draft) (heading : List String)
    (openAt : String → Node.Members → Option Node.Members) : Option Draft := do
  let key ← heading.getLast?
  let root ← Node.descend (openAt key) heading.dropLast d.root
  some { root, heading }

end Draft

/-- A heading, behind its opening bracket, that ends with `closing`. -/
def readHeading (closing : List Char) (cs : List Char) : Option (List String × List Char) := do
  let cs := skipSpace cs
  let (key, rest) ← readKey cs.length cs
  let rest := skipSpace rest
  if closing.isPrefixOf rest then some (key, ← endLine (rest.drop closing.length)) else none

/-- One line that says something. -/
def readLine (d : Draft) : List Char → Option (Draft × List Char)
  | '[' :: '[' :: rest => do
    let (heading, rest) ← readHeading [']', ']'] rest
    some (← d.headed heading Node.openItem, rest)
  | '[' :: rest => do
    let (heading, rest) ← readHeading [']'] rest
    some (← d.headed heading Node.openTable, rest)
  | cs => do
    let (key, rest) ← readKey cs.length cs
    match skipSpace rest with
    | '=' :: rest =>
      let rest := skipSpace rest
      let (v, rest) ← readValue maxDepth (2 * rest.length + 2) rest
      some (← d.put key v, ← endLine rest)
    | _ => none

/-- The lines of a document. `fuel` bounds their number. -/
def readLines : Nat → Draft → List Char → Option Draft
  | 0, _, _ => none
  | fuel + 1, d, cs =>
    match skipFiller false cs with
    | [] => some d
    | cs => do
      let (d, rest) ← readLine d cs
      readLines fuel d rest

/-- The text without a byte order mark at its start. -/
def skipMark : List Char → List Char
  | '\ufeff' :: cs => cs
  | cs => cs

/-- Read a document. -/
def ofText? (s : String) : Option Members :=
  (readLines (s.length + 1) {} (skipMark s.toList)).map fun d => Node.toMembers d.root

end SessionKeeper.Config.Toml
