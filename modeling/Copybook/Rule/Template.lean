import Copybook.Failure
import Copybook.Rule.Arithmetic

/-!
Rule templates. Names between percent signs are replaced by values, and expressions between the
marks `[!` and `!]` by what they come to. -/
namespace Copybook
namespace Rule

inductive TemplateFailure
  /-- A span has no end. -/
  | unclosed (rule : Text)
  /-- A span, or an expression on its own, is no expression. -/
  | invalid (expression : Text) (rule : Option Text)
  | numeral (problem : Numeral.Problem)
  /-- What stands in the place of a template is no text. -/
  | notText
  deriving DecidableEq, Repr

def TemplateFailure.toFailure : TemplateFailure → Failure
  | .unclosed rule => .problem (.rule ("Invalid rule \"" ++ rule ++ "\"") (some rule) none)
  | .invalid expression none =>
    .problem (.rule ("Invalid expression \"" ++ expression ++ "\"") none (some expression))
  | .invalid expression (some rule) =>
    .problem (.rule ("Invalid expression \"" ++ expression ++ "\" in rule \"" ++ rule ++ "\"")
      (some rule) (some expression))
  | .numeral problem => .fault (.numeral problem)
  | .notText => .fault .wrongShape

/-- The value of an expression on its own; blanks around it do not count. -/
def evaluate (expression : Text) : Except TemplateFailure Text :=
  let trimmed := expression.trim
  if isValid trimmed then (compute trimmed).mapError .numeral else .error (.invalid trimmed none)

inductive Piece
  | plain (c : Char)
  | span (inside : Text)
  /-- A span begins here and does not end. -/
  | unclosed
  deriving DecidableEq, Repr

/-- The pieces of a rule; in a span, what has been read of its inside is kept backwards. -/
def piecesFrom : Option Text → Text → List Piece
  | none, [] => []
  | none, '[' :: '!' :: r => piecesFrom (some []) r
  | none, c :: r => .plain c :: piecesFrom none r
  | some _, [] => [.unclosed]
  | some inside, '!' :: ']' :: r => .span inside.reverse :: piecesFrom none r
  | some inside, c :: r => piecesFrom (some (c :: inside)) r

def pieces (rule : Text) : List Piece := piecesFrom none rule

def assemble (rule : Text) : List Piece → Except TemplateFailure Text
  | [] => .ok []
  | .plain c :: rest => (assemble rule rest).map (c :: ·)
  | .unclosed :: _ => .error (.unclosed rule)
  | .span inside :: rest =>
    let expression := inside.trim
    if isValid expression then
      match compute expression with
      | .error problem => .error (.numeral problem)
      | .ok value => (assemble rule rest).map (value ++ ·)
    else .error (.invalid expression (some rule))

def process (rule : Text) : Except TemplateFailure Text := assemble rule (pieces rule)

def placeholder (key : Text) : Text := ['%'] ++ key ++ ['%']

/-- Replaces placeholders by their values, one key after the other. -/
def substitute (values : List (Text × Text)) (template : Text) : Text :=
  values.foldl (fun text entry => Text.replaceAll (placeholder entry.1) entry.2 text) template

end Rule
end Copybook
