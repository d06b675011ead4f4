import SessionKeeper.Text.Blank

/-!
Files that are held in memory, each under its path from one folder. A path may lead through folders
that hold some file, with dots that stay where they are or lead one folder up.
-/

namespace SessionKeeper.Config

/-- Files under their paths. -/
abbrev Files := List (String × String)

namespace Files

/-- The parts of a path. -/
def partsOf (path : String) : List (List Char) := Text.splitOnChar '/' path.toList

/-- Whether some file lies in a folder. -/
def hasFolder (files : Files) (folder : List (List Char)) : Bool :=
  files.any fun (path, _) =>
    let parts := partsOf path
    folder.isPrefixOf parts && folder.length < parts.length

/-- Follow the parts of a path from a folder. Nothing lies above the outermost folder. -/
def resolve? (files : Files) : List (List Char) → List (List Char) → Option (List (List Char))
  | here, [] => some here
  | here, part :: parts =>
    if !here.isEmpty && !files.hasFolder here then none
    else if part = [] ∨ part = ['.'] then resolve? files here parts
    else if part = ['.', '.'] then
      if here.isEmpty then none else resolve? files here.dropLast parts
    else resolve? files (here ++ [part]) parts

/-- The text of the file at a path. A path that starts at the root leads to none. -/
def read? (files : Files) (path : String) : Option String :=
  if path.startsWith "/" then none
  else
    (files.resolve? [] (partsOf path)).bind fun target =>
      (files.find? fun (p, _) => partsOf p == target).map Prod.snd

end Files

end SessionKeeper.Config
