import SessionKeeper.Config.Document
import SessionKeeper.Config.Settings

/-!
Where settings come from: a document for every environment, a document for one environment, and
variables, each set over what comes before. A document that is not there says nothing; one that
cannot be read is an error.
-/

namespace SessionKeeper.Config

/-! ### Documents -/

/-- The name of a document without what a path may end with: slashes and dots that lead nowhere. -/
def bareName (name : String) : List Char := trimmed name.toList.reverse |>.reverse
where
  /-- The same, on the characters from the last to the first. -/
  trimmed : List Char → List Char
    | '/' :: cs => trimmed cs
    | '.' :: '/' :: cs => trimmed ('/' :: cs)
    | cs => cs

/-- Whether a name leads upwards and so cannot be completed by an extension. -/
def leadsUp (name : List Char) : Bool :=
  (Text.splitOnChar '/' name).getLast? == some ['.', '.']

/-- The path of the document of a name and a kind. -/
def pathWith (name : String) (kind : DocumentKind) : String :=
  String.ofList (bareName name) ++ "." ++ kind.extension

/-- The extension of the last part of a path: what stands behind its last dot, unless the part
starts with that dot. -/
def extensionOf (path : String) : Option String :=
  let part := ((Text.splitOnChar '/' path.toList).getLast?).getD []
  let behind := part.reverse.takeWhile (· != '.')
  if behind.length + 1 < part.length then some (String.ofList behind.reverse) else none

/-- The kind of document that a path is of, by its extension. -/
def kindOf? (path : String) : Option DocumentKind :=
  match extensionOf path with
  | some ext => DocumentKind.all.find? fun kind => kind.extension == ext
  | none => none

/-- The paths at which a document of a name may be. -/
def candidates (name : String) : List String :=
  name :: (if leadsUp (bareName name) then [] else DocumentKind.all.map (pathWith name))

/-- What settings are made from. -/
structure Sources where
  /-- The text of the file at a path, if there is one. -/
  file? : String → Option String
  /-- The variables that are set, with their values. -/
  assignments : List (String × String)

namespace Sources

/-- The document of a name: the file of just that name, if it is one of a known kind, or else the
first that there is with an extension. -/
def document? (src : Sources) (name : String) : Option (DocumentKind × String) :=
  match src.file? name with
  | some text => (kindOf? name).map fun kind => (kind, text)
  | none =>
    if leadsUp (bareName name) then none
    else
      DocumentKind.all.findSome? fun kind =>
        (src.file? (pathWith name kind)).map fun text => (kind, text)

/-- What the document of a name says. -/
def layer (src : Sources) (name : String) : Except Error Members :=
  match src.document? name with
  | none => .ok []
  | some (kind, text) =>
    match kind.read? text with
    | some members => .ok members
    | none => .error (.setting ("Failed to build config: " ++ name ++ " is not a document"))

/-- The value of a variable. -/
def variableText? (src : Sources) (name : String) : Option String := src.assignments.lookup name

end Sources

/-! ### Variables -/

/-- What the name of a variable that is a setting starts with, in lower case. -/
def variableMark : String := "authvault__"

/-- The key that the name of a variable stands for. -/
def keyOfVariable? (name : String) : Option String :=
  let name := Text.lowerAscii name
  if variableMark.toList.isPrefixOf name.toList then
    some ((String.ofList (name.toList.drop variableMark.length)).replace "__" ".")
  else none

/-- The value that the text of a variable stands for. -/
def valueOfVariable (text : String) : Value :=
  let word := Text.lowerAscii text
  if word = "true" then .flag true
  else if word = "false" then .flag false
  else
    match Text.readInt64? text, Binary64.ofText? text with
    | some n, _ => .int n
    | none, some x => .float x
    | none, none => .text text

/-- What the variables say. -/
def membersOfVariables (assignments : List (String × String)) : Members :=
  assignments.filterMap fun (name, text) =>
    (keyOfVariable? name).map fun key => (key, valueOfVariable text)

end SessionKeeper.Config

namespace SessionKeeper

/-- Make settings from their sources, and accept them if they keep to the rules. -/
def Settings.load (src : Config.Sources) (dir env : String) : Except Error Settings := do
  let base ← src.layer (dir ++ "/default")
  let own ← src.layer (dir ++ "/" ++ env)
  let layers := [base, own, Config.membersOfVariables src.assignments]
  let merged := layers.foldl Config.Value.setAll (.table [])
  match Settings.read? Config.Value.format merged with
  | none =>
    throw (.setting "Failed to deserialize config: a setting is missing or of the wrong type")
  | some s =>
    s.validate
    return s

end SessionKeeper
