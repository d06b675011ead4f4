import SessionKeeper.Text.Blank
import SessionKeeper.Text.Width

/-!
Tables in plain characters. Every column is as wide as its widest line, every cell has a blank on
either side, and a ruled line stands above and below each row. A cell of several lines makes its
row as high as it needs.
-/

namespace SessionKeeper.Cli.Table

/-- The lines of a cell. -/
abbrev CellLines := List (List Char)

/-- The lines of a text. -/
def linesOf (s : String) : CellLines := Text.splitOnChar '\n' s.toList

/-- The columns that a cell takes. -/
def cellWidth (cell : CellLines) : Nat := (cell.map Text.width).foldl max 0

/-- The widths of the columns of a table, given its rows. -/
def columnWidths : List (List CellLines) → List Nat
  | [] => []
  | [row] => row.map cellWidth
  | row :: rows => (row.map cellWidth).zipWith max (columnWidths rows)

/-- The ruled line between rows. -/
def rule (widths : List Nat) : String :=
  String.ofList ('+' :: widths.flatMap fun w => List.replicate (w + 2) '-' ++ ['+'])

/-- A line of a cell, filled up to the width of its column. -/
def pad (w : Nat) (line : List Char) : List Char :=
  ' ' :: line ++ List.replicate (w - Text.width line) ' ' ++ [' ', '|']

/-- One line of a row. -/
def rowLine (widths : List Nat) (row : List CellLines) (i : Nat) : String :=
  String.ofList ('|' :: (widths.zip row).flatMap fun (w, cell) => pad w (cell.getD i []))

/-- The lines of a row. -/
def rowLines (widths : List Nat) (row : List CellLines) : List String :=
  let height := (row.map List.length).foldl max 0
  (List.range height).map (rowLine widths row)

/-- The lines of a table with the given column names and rows. -/
def lines (names : List String) (rows : List (List String)) : List String :=
  let cells := (names :: rows).map fun row => row.map linesOf
  let widths := columnWidths cells
  rule widths :: cells.flatMap fun row => rowLines widths row ++ [rule widths]

end SessionKeeper.Cli.Table
