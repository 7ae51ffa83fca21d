import Copybook.Text.Numeral

/-!
The arithmetic of rules: rows of digits with plus and minus signs between them. A sign belongs to the
operand behind it, so that operands need only be added up. -/
namespace Copybook
namespace Rule

def isSign (c : Char) : Bool := c = '+' || c = '-'

/-- Whether a text goes on as an expression does; `counted` says that a digit came just before. -/
def isValidFrom : Bool → Text → Bool
  | counted, [] => counted
  | counted, c :: r =>
    if c.isDigit then isValidFrom true r else isSign c && counted && isValidFrom false r

def isValid (expression : Text) : Bool := isValidFrom false expression

/-- The operand that has been read backwards; a sign without a digit is none. -/
def operandOf : Text → List Text
  | [] => []
  | c :: r => if c.isDigit then [(c :: r).reverse] else []

/-- The operands of a text, whatever stands between them: each is a run of digits with the sign right
before it, if there is one. What has been read of an operand is kept backwards. -/
def operandsFrom : Text → Text → List Text
  | held, [] => operandOf held
  | held, c :: r =>
    if c.isDigit then operandsFrom (c :: held) r
    else operandOf held ++ operandsFrom (if isSign c then [c] else []) r

def operands (t : Text) : List Text := operandsFrom [] t

def sumFrom (sum : Int) : List Text → Except Numeral.Problem Int
  | [] => .ok sum
  | operand :: rest =>
    match Numeral.read operand with
    | .error problem => .error problem
    | .ok n => sumFrom (sum + n) rest

def compute (expression : Text) : Except Numeral.Problem Text :=
  match sumFrom 0 (operands expression) with
  | .error problem => .error problem
  | .ok sum => Numeral.write sum

end Rule
end Copybook
