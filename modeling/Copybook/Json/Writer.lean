import Copybook.Json.Value

/-!
Writing JSON documents in ASCII: on one line, or with one item a line and an indentation that repeats
a unit as often as the item is deep. -/
namespace Copybook
namespace Json
namespace Writer

def codeUnit (code : Nat) : Text := "\\u" ++ Text.hex 4 code

def escape (c : Char) : Text :=
  if c = '"' then "\\\""
  else if c = '\\' then "\\\\"
  else if c = '\n' then "\\n"
  else if c = '\r' then "\\r"
  else if c = '\t' then "\\t"
  else if c = '\x0c' then "\\f"
  else if c = '\x08' then "\\b"
  else if ' ' ≤ c && c ≤ '~' then [c]
  else if c.toNat < 0x10000 then codeUnit c.toNat
  else
    let code := c.toNat - 0x10000
    codeUnit (0xD800 + code / 0x400) ++ codeUnit (0xDC00 + code % 0x400)

def text (t : Text) : Text := '"' :: t.flatMap escape ++ ['"']

def number : Binary64 → Text
  | .nan => "NaN"
  | .infinite negative => if negative then "-Infinity" else "Infinity"
  | x => x.write

def scalar : Value → Text
  | .null => "null"
  | .bool b => if b then "true" else "false"
  | .int n => Text.ofInt n
  | .float x => number x
  | .text t => text t
  | .list _ => "[]"
  | .object _ => "\x7b\x7d"

def newLine (unit : Text) (depth : Nat) : Text := '\n' :: Text.repeated depth unit

def enclose (indent : Option Text) (depth : Nat) (first last : Char) (items : List Text) : Text :=
  if items.isEmpty then [first, last]
  else match indent with
    | none => [first] ++ Text.join ", " items ++ [last]
    | some unit =>
      [first] ++ newLine unit (depth + 1) ++
        Text.join ([','] ++ newLine unit (depth + 1)) items ++ newLine unit depth ++ [last]

mutual

def value (indent : Option Text) (depth : Nat) : Value → Text
  | .list items => enclose indent depth '[' ']' (listItems indent (depth + 1) items)
  | .object fields => enclose indent depth '\x7b' '\x7d' (objectItems indent (depth + 1) fields)
  | v => scalar v

def listItems (indent : Option Text) (depth : Nat) : List Value → List Text
  | [] => []
  | v :: items => value indent depth v :: listItems indent depth items

def objectItems (indent : Option Text) (depth : Nat) : List (Text × Value) → List Text
  | [] => []
  | (key, v) :: fields =>
    (text key ++ ": " ++ value indent depth v) :: objectItems indent depth fields

end

end Writer

/-- The unit of indentation of the documents that are meant to be read: two blanks. -/
def usualIndent : Text := [' ', ' ']

/-- The document of a value, with `indent` for each level or on one line. -/
def write (indent : Option Text) (v : Value) : Text := Writer.value indent 0 v

end Json
end Copybook
