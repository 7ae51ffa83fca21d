import Copybook.Encoding.Punycode
import Copybook.Text.Quoted

/-!
Domain names: labels between points. A label with a mark in front is in Punycode; it has to stand for
something that is not ASCII, else it would have been written as it is. -/
namespace Copybook
namespace Encoding
namespace DomainName

inductive Fault
  | punycode (fault : Punycode.Fault)
  | size
  | prohibited (c : Char)
  /-- The decoded label begins with the mark itself. -/
  | marked
  /-- The decoded label would be written in another way. -/
  | unstable (label decoded : Text)
  deriving DecidableEq, Repr

def Fault.message : Fault → Text
  | .punycode fault =>
    "decoding with 'punycode' codec failed (UnicodeError: " ++ fault.message ++ [')']
  | .size => "label empty or too long"
  | .prohibited c => "Invalid character " ++ Text.quoted [c]
  | .marked => "Label starts with ACE prefix"
  | .unstable label decoded =>
    "('IDNA does not round-trip', b" ++ label.quoted ++ ", b" ++ decoded.quoted ++ [')']

def mark : Text := "xn--"

def maxLength : Nat := 63

/-- The control characters beyond ASCII. -/
def isProhibited (c : Char) : Bool := 0x80 ≤ c.toNat && c.toNat < 0xA0

def isAscii (t : Text) : Bool := t.all fun c => c.toNat < 0x80

def check (label decoded : Text) : Except Fault Text :=
  if isAscii decoded then
    .error (if decoded.isEmpty || maxLength < decoded.length then .size
      else .unstable label decoded)
  else match decoded.find? isProhibited with
    | some c => .error (.prohibited c)
    | none =>
      if mark.isPrefixOf decoded then .error .marked
      else if maxLength < label.length then .error .size
      else .ok decoded

def decodeLabel (label : Text) : Except Fault Text :=
  if mark.isPrefixOf label then
    let (front, rest) := Punycode.parts (label.drop mark.length)
    match Punycode.decodeParts front rest with
    | .ok decoded => check label decoded
    | .error fault => .error (.punycode fault)
  else .ok label

def decodeLabels : List Text → Except Fault (List Text)
  | [] => .ok []
  | label :: rest => do return (← decodeLabel label) :: (← decodeLabels rest)

/-- How many bytes labels are counted as; one that follows only empty ones does not count its point. -/
def size (labels : List Text) : Nat :=
  labels.foldl (fun n label => (if n = 0 then 0 else n + 1) + label.length) 0

/-- What the labels of a text stand for, and how many bytes are done with. The last label is open
unless the text ends with a point; an open label is left over when more data may follow. -/
def decode (final : Bool) (t : Text) : Except Fault (Text × Nat) :=
  if t.isEmpty then .ok ([], 0)
  else
    let labels := Text.splitOn '.' t
    let whole := final && labels.getLast? != some []
    let labels := if whole then labels else labels.dropLast
    let point : Text := if whole || labels.isEmpty then [] else ['.']
    match decodeLabels labels with
    | .ok texts => .ok (Text.join ['.'] texts ++ point, size labels + point.length)
    | .error fault => .error fault

end DomainName
end Encoding
end Copybook
