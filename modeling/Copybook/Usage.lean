import Copybook.Text.Blank
import Copybook.Text.Case

/-!
Storage formats and their many spellings. -/
namespace Copybook

inductive Usage
  | display | binary | single | double | packed | native
  deriving DecidableEq, Repr

namespace Usage

def name : Usage → Text
  | .display => "DISPLAY"
  | .binary => "COMP"
  | .single => "COMP-1"
  | .double => "COMP-2"
  | .packed => "COMP-3"
  | .native => "COMP-5"

def spellings : List (Text × Usage) :=
  [("COMP", .binary), ("COMPUTATIONAL", .binary), ("COMP-4", .binary), ("COMPUTATIONAL-4", .binary),
   ("BINARY", .binary), ("COMP-1", .single), ("COMPUTATIONAL-1", .single), ("COMP-2", .double),
   ("COMPUTATIONAL-2", .double), ("COMP-3", .packed), ("COMPUTATIONAL-3", .packed),
   ("PACKED-DECIMAL", .packed), ("COMP-5", .native), ("COMPUTATIONAL-5", .native),
   ("DISPLAY", .display)]

def ofWord? (word : Text) : Option Usage := spellings.lookup word

/-- The short name of a format; a phrase that names none is put in capitals. -/
def normalize (phrase : Text) : Text :=
  let word := phrase.trim.upper
  match ofWord? word with
  | some usage => usage.name
  | none => word

def isSingle (phrase : Text) : Bool := ofWord? phrase.upper = some .single

def isDouble (phrase : Text) : Bool := ofWord? phrase.upper = some .double

end Usage
end Copybook
