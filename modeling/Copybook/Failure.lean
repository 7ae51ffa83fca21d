import Copybook.Csv.Reader
import Copybook.Encoding.Decoder
import Copybook.Files.Tree
import Copybook.Flaw
import Copybook.Json.Reader
import Copybook.Problem

/-!
Everything that can end an operation: a problem of the subject matter, which readers and runs report
and survive, or a fault of numbers, encodings, files and values, which they do not handle. -/
namespace Copybook

inductive Fault
  | numeral (problem : Numeral.Problem)
  | repetition (fault : RepetitionFault)
  | encodingName (fault : Encoding.NameFault)
  | decoding (fault : Encoding.Failure)
  | files (fault : Files.Fault)
  | json (fault : Json.Fault) (document : Text)
  /-- A container of a JSON document is nested too deeply. -/
  | nesting (container : Json.Container)
  /-- A field of a table is too long. -/
  | overlongField
  /-- A value is of the right kind and cannot be used. -/
  | unusable (text : Text)
  /-- Nothing is kept under a key, which is shown as `key`. -/
  | noEntry (key : Text)
  /-- A value is of a kind that the operation does not take. -/
  | wrongType
  /-- A value has no such part. -/
  | wrongShape
  deriving DecidableEq, Repr

inductive Failure
  | problem (p : Problem)
  | fault (f : Fault)
  deriving DecidableEq, Repr

def Fault.ofJson (document : Text) : Json.ReadFailure → Fault
  | .malformed fault => .json fault document
  | .numeral problem => .numeral problem
  | .tooDeep container => .nesting container

/-- What is said about a fault; of a wrong kind of value nothing is. -/
def Fault.message : Fault → Option Text
  | .numeral problem => some problem.message
  | .repetition fault => some fault.message
  | .encodingName fault => some fault.message
  | .decoding failure => some failure.message
  | .files fault => some fault.message
  | .json fault document => some (fault.message document)
  | .nesting container => some container.tooDeepMessage
  | .overlongField => some Csv.overlongMessage
  | .unusable text => some text
  | .noEntry key => some key
  | .wrongType | .wrongShape => none

/-- A malformed entry is a problem; a number beyond the limits is a fault. -/
def EntryFailure.toFailure (file : Option Text) (line : Nat) : EntryFailure → Failure
  | .malformed flaw => .problem (.malformed flaw.message file line)
  | .numeral problem => .fault (.numeral problem)
  | .repetition fault => .fault (.repetition fault)

end Copybook
