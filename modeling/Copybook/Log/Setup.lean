import Copybook.Failure
import Copybook.Log

/-!
Choosing the level at which log records are shown. -/
namespace Copybook
namespace Log

/-- The weight of a level name; some names stand for things that are no level. -/
def configure (name : Text) : Except Fault Nat :=
  match named name with
  | .weight n => .ok n
  | .otherText t => .error (.unusable ("Unknown level: " ++ t.quoted))
  | .otherValue => .error .wrongType

end Log
end Copybook
