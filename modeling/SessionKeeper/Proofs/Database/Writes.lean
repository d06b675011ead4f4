import SessionKeeper.Database.Script

/-!
# The row that a statement writes

An insertion names its columns between parentheses, in the order of its parameters. A change of rows
names a column before each equals sign, and the parameters that follow belong to it: those that it
is set to, and those by which rows are picked. So the columns of the parameters can be read off the
text of a statement (`parameterColumns`), and with them the row that it enters, or the part of the
rows that it changes (`Statement.row`).
-/

namespace SessionKeeper.Database

/-- The number of the parameter that a word speaks of. -/
def parameterNumber? (word : List Char) : Option Nat :=
  match word.dropWhile (· != '$') with
  | [] => none
  | _ :: digits => some (Nat.ofDigitChars 10 (digits.takeWhile Char.isDigit) 0)

/-- The columns of the parameters in a list of words: the word before the last equals sign. -/
def assignedColumns (column previous : List Char) : List (List Char) → List (String × Nat)
  | [] => []
  | word :: words =>
    if word = ['='] then assignedColumns previous word words
    else
      let rest := assignedColumns column word words
      match parameterNumber? word with
      | some n => (String.ofList (column.filter (· != '"')), n) :: rest
      | none => rest

/-- Whether a statement with the text inserts a row. -/
def isInsertion (text : String) : Bool := "INSERT".toList.isPrefixOf text.toList

/-- Whether a statement with the text changes rows. -/
def isUpdate (text : String) : Bool := "UPDATE".toList.isPrefixOf text.toList

/-- The columns of the parameters of a statement with a text, with the numbers of the parameters. -/
def parameterColumns (text : String) : List (String × Nat) :=
  if isInsertion text then (Script.columnsOf text).zipIdx 1
  else assignedColumns [] [] (Text.words text.toList)

namespace Statement

/-- Whether rows are entered or changed. -/
def Writes (s : Statement) : Prop := isInsertion s.text = true ∨ isUpdate s.text = true

/-- The parameters under the names of their columns. -/
def row (s : Statement) : Row :=
  (parameterColumns s.text).map fun c => (c.1, s.parameters.getD (c.2 - 1) .null)

end Statement

end SessionKeeper.Database
