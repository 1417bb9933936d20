import DeviceCatalog.CommandLine.Command
import DeviceCatalog.Document.Json.Printer
import DeviceCatalog.Text.Csv
import DeviceCatalog.Text.Grid

/-!
Answers of commands as lines of output: a document in full, or sheets with a selection of it.
-/

namespace DeviceCatalog.CommandLine

/-- A column of a sheet: its heading in a table, its name in a file, and its cells. -/
structure Column (Row : Type) where
  of ::
  heading : String
  field : String
  cell : Row → String
  /-- In a file the names of columns have no quotes. -/
  isPlain_field : Text.Csv.isPlain field = true := by decide

structure SheetStyle where
  format : SheetFormat
  /-- Whether everything but the answer itself is left out. -/
  quiet : Bool

/-- A dash stands for what is absent. -/
def orDash (text : Option String) : String := text.getD "-"

namespace SheetStyle

/-- A line that is left out where only the answer itself is wanted. -/
def note (style : SheetStyle) (text : String) : List String :=
  if style.quiet then [] else [text]

def sortByField {Row : Type} (columns : List (Column Row)) : List (Column Row) :=
  columns.mergeSort fun left right => !decide (right.field < left.field)

/-- The lines of a file: the names of the columns and the values of each row. -/
def csvLines {Row : Type} (columns : List (Column Row)) (rows : List Row) : List String :=
  let columns := sortByField columns
  ",".intercalate (columns.map (·.field)) ::
    rows.map fun row => Text.Csv.record (columns.map (·.cell row))

def rows {Row : Type} (style : SheetStyle) (columns : List (Column Row)) (rows : List Row) :
    List String :=
  match style.format with
  | .table =>
    if rows.isEmpty then style.note "No data"
    else [Text.Grid.render (columns.map (·.heading))
      (rows.map fun row => columns.map (·.cell row))]
  | .csv => if rows.isEmpty then [] else csvLines columns rows

def properties (style : SheetStyle) (pairs : List (String × String)) : List String :=
  match style.format with
  | .table => pairs.map fun pair => pair.1 ++ ": " ++ pair.2
  | .csv => [",".intercalate (pairs.map (·.1)), Text.Csv.record (pairs.map (·.2))]

end SheetStyle

structure View where
  document : Document
  /-- The lines that stand for the document in a sheet. -/
  sheet : SheetStyle → List String

def View.lines (view : View) (format : OutputFormat) (quiet : Bool) : List String :=
  match format with
  | .json => [Json.pretty view.document]
  | .sheet format => view.sheet { format, quiet }

end DeviceCatalog.CommandLine
