import Copybook.Text.Basic

/-!
Writing tables of comma-separated values. A field is quoted only when it holds a comma, a quote or a
character of the line end, or when it is empty and alone. -/
namespace Copybook
namespace Csv
namespace Writer

def isSpecial (lineEnd : Text) (c : Char) : Bool := c = ',' || c = '"' || lineEnd.contains c

def quote (field : Text) : Text :=
  '"' :: field.flatMap (fun c => if c = '"' then ['"', '"'] else [c]) ++ ['"']

def field (lineEnd : Text) (t : Text) : Text := if t.any (isSpecial lineEnd) then quote t else t

def record (lineEnd : Text) : List Text → Text
  | [[]] => "\"\"" ++ lineEnd
  | fields => Text.join [','] (fields.map (field lineEnd)) ++ lineEnd

end Writer

def write (lineEnd : Text) (records : List (List Text)) : Text :=
  records.flatMap (Writer.record lineEnd)

end Csv
end Copybook
