import Copybook.Text.Numeral

/-!
What can be wrong with a data description entry. A flaw is the author's mistake; the other reasons
for which an entry cannot be read are numbers beyond the limits of what can be handled. -/
namespace Copybook

inductive Flaw
  /-- There is no first word. -/
  | emptyEntry
  /-- The first word is not a level number. -/
  | badLevel (word : Text)
  /-- A parenthesis opens before any symbol of the picture. -/
  | noSymbol (picture : Text)
  /-- A parenthesis is not closed. -/
  | unclosedCount (picture : Text)
  /-- A repetition count is not a row of digits. -/
  | badCount (picture count : Text)
  /-- A condition name has no item before it. -/
  | orphanCondition (name : Text)
  deriving DecidableEq, Repr

def Flaw.message : Flaw → Text
  | .emptyEntry => "empty declaration has no level number"
  | .badLevel word => "invalid level number '" ++ word ++ "'"
  | .noSymbol picture => "invalid picture '" ++ picture ++ "': no symbol before '('"
  | .unclosedCount picture => "invalid picture '" ++ picture ++ "': missing ')'"
  | .badCount picture count =>
    "invalid picture '" ++ picture ++ "': bad repetition count '" ++ count ++ "'"
  | .orphanCondition name => "condition name " ++ name ++ " has no preceding data item"

/-- The limits of repetition: a count of at most 63 bits, and a result of at most as many. -/
inductive RepetitionFault
  | countTooBig | resultTooLong
  deriving DecidableEq, Repr

def RepetitionFault.message : RepetitionFault → Text
  | .countTooBig => "cannot fit 'int' into an index-sized integer"
  | .resultTooLong => "repeated string is too long"

inductive EntryFailure
  | malformed (flaw : Flaw)
  | numeral (problem : Numeral.Problem)
  | repetition (fault : RepetitionFault)
  deriving DecidableEq, Repr

end Copybook
