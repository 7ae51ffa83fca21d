import Copybook.Csv.Writer
import Copybook.Json.Value
import Copybook.Text.Blank

/-!
Type tables: one row for each attribute with what its declaration says, under the columns of the
table. -/
namespace Copybook

/-- A row gives a text for some columns. -/
abbrev TypeRow := List (Text × Text)

structure TypeTable where
  columns : List Text
  rows : List TypeRow
  deriving DecidableEq, Repr

namespace TypeTable

def usualColumns : List Text := ["attribute", "declaration", "type", "size", "scale", "usage"]

def empty : TypeTable := ⟨usualColumns, []⟩

def cell (row : TypeRow) (column : Text) : Text := (Association.find? column row).getD []

/-- Adds a row with all columns; those without a value are empty. -/
def add (t : TypeTable) (values : TypeRow) : TypeTable :=
  let row := Association.ofList (t.columns.map fun column => (column, cell values column))
  { t with rows := t.rows ++ [row] }

def row? (t : TypeTable) (name : Text) : Option TypeRow :=
  t.rows.find? fun row => Association.find? ("attribute" : Text) row = some name

def toJson (t : TypeTable) : Json.Value :=
  .object [("properties", .list (t.columns.map .text)),
    ("rows", .list (t.rows.map fun row => .object (row.map fun entry => (entry.1, .text entry.2))))]

def width (t : TypeTable) (column : Text) : Nat :=
  t.rows.foldl (fun w row => max w (cell row column).length) column.length

/-- A line of cells, each filled up to its width, with two blanks between them. -/
def line (cells : List (Text × Nat)) : Text :=
  Text.trimEnd (Text.join [' ', ' '] (cells.map fun cell => Text.padRight cell.2 cell.1))

def format (t : TypeTable) : Text :=
  let widths := t.columns.map t.width
  let render (cells : List Text) := line (cells.zip widths)
  Text.join ['\n'] ([render t.columns, render (widths.map fun w => List.replicate w '-')] ++
    t.rows.map fun row => render (t.columns.map (cell row)))

def strangers (t : TypeTable) (row : TypeRow) : List Text :=
  (row.map (·.1)).filter fun name => !t.columns.contains name

def strangerMessage (names : List Text) : Text :=
  "dict contains fields not in fieldnames: " ++ Text.join ", " (names.map Text.quoted)

/-- An export as far as it goes: it stops before a row with names that are no columns. -/
structure Export where
  text : Text
  strangers : Option (List Text)
  deriving DecidableEq, Repr

def exportRows (t : TypeTable) (lineEnd : Text) : List TypeRow → Export
  | [] => ⟨[], none⟩
  | row :: rest =>
    match t.strangers row with
    | [] =>
      let more := t.exportRows lineEnd rest
      ⟨Csv.Writer.record lineEnd (t.columns.map (cell row)) ++ more.text, more.strangers⟩
    | names => ⟨[], some names⟩

def exported (t : TypeTable) (lineEnd : Text) : Export :=
  let rows := t.exportRows lineEnd t.rows
  ⟨Csv.Writer.record lineEnd t.columns ++ rows.text, rows.strangers⟩

end TypeTable
end Copybook
