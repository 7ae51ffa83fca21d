import Copybook.Flaw
import Copybook.Word

/-!
The clauses of a data description entry, read from its words. A clause begins with a word of its
own, which a noise word may follow; an entry without the clause yields an empty text. -/
namespace Copybook
namespace Clause

def find? (keywords : List Text) : List Text → Option (Text × List Text)
  | [] => none
  | word :: rest => if Word.isOneOf keywords word then some (word, rest) else find? keywords rest

def skip (noise : Text) : List Text → List Text
  | [] => []
  | word :: rest => if word.upper = noise then rest else word :: rest

def operand (keywords : List Text) (words : List Text) : Option Text :=
  (find? keywords words).map fun (_, rest) => (skip "IS" rest).headD []

def level : List Text → Except Flaw Int
  | [] => .error .emptyEntry
  | word :: _ =>
    match Numeral.read word with
    | .ok n => .ok n
    | .error _ => .error (.badLevel word)

/-- The second word, unless it begins a clause. -/
def name : List Text → Text
  | _ :: word :: _ => if Word.isNameless word then [] else word
  | _ => []

def picture (words : List Text) : Text := (operand Word.pictureWords words).getD []

/-- What follows the word USAGE, or else the first word that names a format by itself. -/
def usage (words : List Text) : Text :=
  match operand ["USAGE"] words with
  | some word => word
  | none => (words.find? Word.isUsageWord).getD []

def isQuote (c : Char) : Bool := c = '\'' || c = '"'

def stripQuotes (literal : Text) : Text :=
  match literal with
  | q :: rest =>
    if isQuote q && rest.getLast? = some q then rest.dropLast else literal
  | [] => literal

/-- Everything after VALUE IS or VALUES ARE, with single blanks between the words. A single word
loses its quotes. -/
def value (words : List Text) : Text :=
  match find? Word.valueWords words with
  | none => []
  | some (keyword, rest) =>
    match skip (if keyword.upper = ("VALUE" : Text) then "IS" else "ARE") rest with
    | [literal] => stripQuotes literal
    | content => Text.join [' '] content

end Clause
end Copybook
