import DeviceCatalog.Text.Columns

/-!
Grids of cells for a terminal. A rule is drawn around every row, and each column is as wide as the
widest line of its cells.
-/

namespace DeviceCatalog.Text.Grid

def cellLines (cell : String) : List (List Char) := cell.toList.splitOn '\n'

def cellColumns (cell : String) : Nat := ((cellLines cell).map columns).foldl max 0

/-- The width of each column over all rows, the first of which tells how many there are. -/
def widths (heading : List String) (rows : List (List String)) : List Nat :=
  rows.foldl (fun widest row => List.zipWith max widest (row.map cellColumns))
    (heading.map cellColumns)

def rule (widths : List Nat) : List Char :=
  '+' :: widths.flatMap fun width => List.replicate (width + 2) '-' ++ ['+']

/-- A line of a cell between its blanks, with as many more as fill the column. -/
def paddedLine (width : Nat) (line : List Char) : List Char :=
  ' ' :: line ++ List.replicate (width - columns line + 1) ' '

/-- One of the lines that a row takes; a cell with fewer lines is blank below them. -/
def rowLine (widths : List Nat) (cells : List (List (List Char))) (index : Nat) : List Char :=
  '|' :: (List.zipWith (fun width lines =>
    paddedLine width (lines[index]?.getD []) ++ ['|']) widths cells).flatten

def rowLines (widths : List Nat) (row : List String) : List (List Char) :=
  let cells := row.map cellLines
  let height := (cells.map List.length).foldl max 0
  (List.range height).map (rowLine widths cells)

/-- The grid, without a line feed after its last line. -/
def render (heading : List String) (rows : List (List String)) : String :=
  let widths := widths heading rows
  let lines := rule widths ::
    (heading :: rows).flatMap fun row => rowLines widths row ++ [rule widths]
  String.ofList (List.intercalate ['\n'] lines)

end DeviceCatalog.Text.Grid
