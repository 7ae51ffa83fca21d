import Copybook.Text.Basic
import Copybook.Text.Printable

/-!
Text in quotes, as messages show it: apostrophes around it, or quotation marks when it holds an
apostrophe and no quotation mark. A backslash introduces what cannot be shown as it is. -/
namespace Copybook
namespace Quoted

def mark (t : Text) : Char := if t.contains '\'' && !t.contains '"' then '"' else '\''

def escape (mark c : Char) : Text :=
  if c = mark || c = '\\' then ['\\', c]
  else if c = '\n' then "\\n"
  else if c = '\r' then "\\r"
  else if c = '\t' then "\\t"
  else if isPrintable c then [c]
  else if c.toNat < 0x100 then "\\x" ++ Text.hex 2 c.toNat
  else if c.toNat < 0x10000 then "\\u" ++ Text.hex 4 c.toNat
  else "\\U" ++ Text.hex 8 c.toNat

end Quoted

def Text.quoted (t : Text) : Text :=
  let m := Quoted.mark t
  m :: t.flatMap (Quoted.escape m) ++ [m]

end Copybook
