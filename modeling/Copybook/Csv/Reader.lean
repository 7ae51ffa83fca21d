import Copybook.Text.Basic

/-!
Reading tables of comma-separated values. A field may stand in quotes, and then holds commas, line
ends and quotes, the latter written twice. -/
namespace Copybook
namespace Csv

def fieldLimit : Nat := 131072

def overlongMessage : Text := "field larger than field limit (131072)"

/-- The records of a table; when a field is too long, those before it. -/
structure Table where
  records : List (List Text)
  overlong : Bool
  deriving DecidableEq, Repr

namespace Reader

/-- The place reached in a record: its start, the start of a field, a bare field, a quoted field, or
a quote in a quoted field. -/
inductive Place
  | recordStart | fieldStart | bare | quoted | quote
  deriving DecidableEq, Repr

def Table.cons (record : List Text) (t : Table) : Table := { t with records := record :: t.records }

/-- Reads on from a place. The field and the fields before it are kept backwards; `none` in the
input is the end of a line. -/
def run : Place → Text → List Text → List (Option Char) → Table
  | .quoted, field, fields, [] => ⟨[(field.reverse :: fields).reverse], false⟩
  | _, _, _, [] => ⟨[], false⟩
  | .recordStart, _, _, none :: r => Table.cons [] (run .recordStart [] [] r)
  | .quoted, field, fields, none :: r => run .quoted field fields r
  | _, field, fields, none :: r =>
    Table.cons (field.reverse :: fields).reverse (run .recordStart [] [] r)
  | .quoted, field, fields, some c :: r =>
    if c = '"' then run .quote field fields r
    else if fieldLimit ≤ field.length then ⟨[], true⟩
    else run .quoted (c :: field) fields r
  | place, field, fields, some c :: r =>
    if c = ',' then run .fieldStart [] (field.reverse :: fields) r
    else if c = '"' && place = .quote then
      if fieldLimit ≤ field.length then ⟨[], true⟩ else run .quoted (c :: field) fields r
    else if c = '"' && place != .bare then run .quoted field fields r
    else if fieldLimit ≤ field.length then ⟨[], true⟩
    else run .bare (c :: field) fields r

end Reader

def read (lines : List Text) : Table :=
  Reader.run .recordStart [] [] (lines.flatMap fun line => line.map some ++ [none])

/-- The place of the last column with a name. -/
def column? (name : Text) : List Text → Option Nat
  | [] => none
  | header :: rest =>
    match column? name rest with
    | some place => some (place + 1)
    | none => if header = name then some 0 else none

end Csv
end Copybook
