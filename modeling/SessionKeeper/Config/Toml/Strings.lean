import SessionKeeper.Text.Digits

/-!
The strings and keys of a TOML document. A string stands in double quotes, with escapes, or in
single quotes, as it is; three quotes open a string that may go over several lines. Each reader
takes what it recognises off the front of the text and returns the rest.
-/

namespace SessionKeeper.Config.Toml

/-- A blank within a line. -/
def isSpace (c : Char) : Bool := c == ' ' || c == '\t'

/-- The text without the blanks that it starts with. -/
def skipSpace (cs : List Char) : List Char := cs.dropWhile isSpace

/-- A character that may stand in a line: every one but the controls other than the tab. -/
def isLineChar (c : Char) : Bool := c == '\t' || (0x20 ≤ c.toNat && c.toNat != 0x7f)

/-- The character for which a letter stands behind a backslash. -/
def escaped? : Char → Option Char
  | 'b' => some '\x08'
  | 't' => some '\t'
  | 'n' => some '\n'
  | 'f' => some '\x0c'
  | 'r' => some '\r'
  | '"' => some '"'
  | '\\' => some '\\'
  | _ => none

/-- The character with the number that hexadecimal digits spell; halves of surrogate pairs are
none. -/
def charOfHex? (ds : List Char) : Option Char :=
  match Text.hexFrom 0 ds with
  | some n => if n.isValidChar then some (Char.ofNat n) else none
  | none => none

/-- Put a character in front of what has been read. -/
def consRead (c : Char) : Option (List Char × List Char) → Option (List Char × List Char) :=
  Option.map fun (s, rest) => (c :: s, rest)

/-- Put a character, if there is one, in front of what has been read. -/
def consRead? (c : Option Char) (r : Option (List Char × List Char)) :
    Option (List Char × List Char) :=
  match c with
  | some c => consRead c r
  | none => none

/-- The rest of a string in double quotes. -/
def readQuoted : List Char → Option (List Char × List Char)
  | [] => none
  | '"' :: rest => some ([], rest)
  | '\\' :: 'u' :: a :: b :: c :: d :: rest => consRead? (charOfHex? [a, b, c, d]) (readQuoted rest)
  | '\\' :: 'U' :: a :: b :: c :: d :: e :: f :: g :: h :: rest =>
    consRead? (charOfHex? [a, b, c, d, e, f, g, h]) (readQuoted rest)
  | '\\' :: c :: rest => consRead? (escaped? c) (readQuoted rest)
  | c :: rest => if isLineChar c then consRead c (readQuoted rest) else none

/-- The rest of a string in single quotes. -/
def readLiteral : List Char → Option (List Char × List Char)
  | [] => none
  | '\'' :: rest => some ([], rest)
  | c :: rest => if isLineChar c then consRead c (readLiteral rest) else none

/-- Whether a line ends here, after blanks. -/
def endsLine (cs : List Char) : Bool :=
  match skipSpace cs with
  | '\n' :: _ => true
  | '\r' :: '\n' :: _ => true
  | _ => false

/-- The rest of a string in three double quotes. Up to two quotes may stand in front of the closing
three. A backslash at the end of a line swallows the blanks and line ends behind it: `skipping` says
that this is going on. -/
def readQuotedLines (skipping : Bool) : List Char → Option (List Char × List Char)
  | [] => none
  | '\r' :: '\n' :: rest =>
    if skipping then readQuotedLines true rest else consRead '\n' (readQuotedLines false rest)
  | '\n' :: rest =>
    if skipping then readQuotedLines true rest else consRead '\n' (readQuotedLines false rest)
  | '"' :: '"' :: '"' :: '"' :: '"' :: rest => some (['"', '"'], rest)
  | '"' :: '"' :: '"' :: '"' :: rest => some (['"'], rest)
  | '"' :: '"' :: '"' :: rest => some ([], rest)
  | '\\' :: 'u' :: a :: b :: c :: d :: rest =>
    consRead? (charOfHex? [a, b, c, d]) (readQuotedLines false rest)
  | '\\' :: 'U' :: a :: b :: c :: d :: e :: f :: g :: h :: rest =>
    consRead? (charOfHex? [a, b, c, d, e, f, g, h]) (readQuotedLines false rest)
  | '\\' :: c :: rest =>
    if endsLine (c :: rest) then readQuotedLines true (c :: rest)
    else consRead? (escaped? c) (readQuotedLines false rest)
  | c :: rest =>
    if skipping && isSpace c then readQuotedLines true rest
    else if isLineChar c then consRead c (readQuotedLines false rest)
    else none

/-- The rest of a string in three single quotes, in front of which two more may stand. -/
def readLiteralLines : List Char → Option (List Char × List Char)
  | [] => none
  | '\r' :: '\n' :: rest => consRead '\n' (readLiteralLines rest)
  | '\n' :: rest => consRead '\n' (readLiteralLines rest)
  | '\'' :: '\'' :: '\'' :: '\'' :: '\'' :: rest => some (['\'', '\''], rest)
  | '\'' :: '\'' :: '\'' :: '\'' :: rest => some (['\''], rest)
  | '\'' :: '\'' :: '\'' :: rest => some ([], rest)
  | c :: rest => if isLineChar c then consRead c (readLiteralLines rest) else none

/-- The text without the line end that it starts with. -/
def skipLineEnd : List Char → List Char
  | '\r' :: '\n' :: rest => rest
  | '\n' :: rest => rest
  | cs => cs

/-- A string in any kind of quotes. -/
def readString : List Char → Option (List Char × List Char)
  | '"' :: '"' :: '"' :: rest => readQuotedLines false (skipLineEnd rest)
  | '"' :: rest => readQuoted rest
  | '\'' :: '\'' :: '\'' :: rest => readLiteralLines (skipLineEnd rest)
  | '\'' :: rest => readLiteral rest
  | _ => none

/-- A character of a key without quotes. -/
def isKeyChar (c : Char) : Bool := c.isAlphanum || c == '_' || c == '-'

/-- One part of a key: a string within a line, or some plain characters. -/
def readKeyPart : List Char → Option (String × List Char)
  | '"' :: rest => (readQuoted rest).map fun (s, r) => (String.ofList s, r)
  | '\'' :: rest => (readLiteral rest).map fun (s, r) => (String.ofList s, r)
  | cs =>
    let key := cs.takeWhile isKeyChar
    if key.isEmpty then none else some (String.ofList key, cs.dropWhile isKeyChar)

/-- A key: parts with dots between them, and blanks around the dots. `fuel` bounds the parts. -/
def readKey : Nat → List Char → Option (List String × List Char)
  | 0, _ => none
  | fuel + 1, cs => do
    let (part, rest) ← readKeyPart cs
    match skipSpace rest with
    | '.' :: rest =>
      let (parts, rest) ← readKey fuel (skipSpace rest)
      some (part :: parts, rest)
    | _ => some ([part], rest)

end SessionKeeper.Config.Toml
