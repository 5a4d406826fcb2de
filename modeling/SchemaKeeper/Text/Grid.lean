import SchemaKeeper.Text.Width

/-!
Grids: cells of text in columns with lines drawn between them.  A cell may hold
several lines, and a column is as wide as its widest line.
-/

namespace SchemaKeeper.Text

/-- Every row has as many cells as the header. -/
structure Grid where
  header : List String
  rows : List (List String)
  deriving DecidableEq, Repr

namespace Grid

def cellLines (cell : String) : List String :=
  cell.splitOn "\n"

def cellWidth (cell : String) : Nat :=
  (cellLines cell).foldl (fun widest line => max widest (width line)) 0

def columnWidths (grid : Grid) : List Nat :=
  grid.rows.foldl (fun widths row => List.zipWith max widths (row.map cellWidth))
    (grid.header.map cellWidth)

/-- A horizontal line; `edge` stands at both ends and `joint` between columns. -/
def rule (edge joint fill : String) (widths : List Nat) : String :=
  edge ++ joint.intercalate (widths.map fun n => "".pushn fill.front (n + 2)) ++ edge

def padded (n : Nat) (line : String) : String :=
  " " ++ line ++ "".pushn ' ' (n - width line) ++ " "

/-- The line with this index of every cell; cells with fewer lines are blank there. -/
def rowLine (widths : List Nat) (row : List (List String)) (index : Nat) : String :=
  "|" ++ "|".intercalate (List.zipWith (fun n lines => padded n (lines.getD index "")) widths row)
    ++ "|"

def rowLines (widths : List Nat) (row : List String) : List String :=
  let cells := row.map cellLines
  let height := cells.foldl (fun height lines => max height lines.length) 0
  (List.range height).map (rowLine widths cells)

/-- The lines of the grid; the header is set off by a double line. -/
def render (grid : Grid) : String :=
  let widths := grid.columnWidths
  let between := rule "|" "+" "-" widths
  "\n".intercalate
    ([rule "+" "+" "-" widths] ++ rowLines widths grid.header ++ [rule "+" "=" "=" widths] ++
      [between].intercalate (grid.rows.map (rowLines widths)) ++ [rule "+" "+" "-" widths])

end Grid

end SchemaKeeper.Text
