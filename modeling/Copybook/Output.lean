import Copybook.Failure
import Copybook.Record
import Copybook.TypeTable

/-!
Writing results to files. The directories above a file are made as needed; whatever an error leaves
behind stays. -/
namespace Copybook
namespace Output

structure Attempt where
  files : Files.Tree
  fault : Option Fault

/-- Writes text to a file; `flaw` is a fault that shows once the text has been written. -/
def write (files : Files.Tree) (path : Path) (text : Text) (flaw : Option Fault) : Attempt :=
  match files.ensureDirectories path.parent with
  | (files, some fault) => ⟨files, some (.files fault)⟩
  | (files, none) =>
    match files.write path (Encoding.encodeUtf8 text) with
    | .error fault => ⟨files, some (.files fault)⟩
    | .ok files => ⟨files, flaw⟩

def writeObjects (files : Files.Tree) (path : Path) (objects : List DataObject) : Attempt :=
  write files path (DataObject.document (some Json.usualIndent) objects) none

def strangerFault (e : TypeTable.Export) : Option Fault :=
  e.strangers.map fun names => .unusable (TypeTable.strangerMessage names)

def writeTypes (files : Files.Tree) (path : Path) (table : TypeTable) : Attempt :=
  let e := table.exported ['\r', '\n']
  write files path e.text (strangerFault e)

/-- The type table as text with plain line ends. -/
def typesText (table : TypeTable) : Except Fault Text :=
  let e := table.exported ['\n']
  match strangerFault e with
  | some fault => .error fault
  | none => .ok e.text

end Output
end Copybook
