import Copybook.Json.Token

/-!
Reading JSON documents. The reader goes once over the tokens and keeps the lists and objects that
are still open on a stack, which has a limit; of a key that occurs twice the last value counts. -/
namespace Copybook
namespace Json

inductive Container
  | list | object
  deriving DecidableEq, Repr

/-- Why a document cannot be read: it is not JSON, or a number in it has too many digits, or a
container in it is nested too deeply. -/
inductive ReadFailure
  | malformed (fault : Fault)
  | numeral (problem : Numeral.Problem)
  | tooDeep (container : Container)
  deriving DecidableEq, Repr

def Container.tooDeepMessage (c : Container) : Text :=
  "maximum recursion depth exceeded while decoding a JSON " ++
    (match c with
      | .list => ("array" : Text)
      | .object => "object") ++ " from a unicode string"

/-- How many containers may be open at once. It depends on the room that is left where a document is
read; there is enough of it for rule files, which need three. -/
structure Depth where
  limit : Nat
  three_le : 3 ≤ limit

namespace Reader

/-- An open list or object with its content so far, the latest first. -/
inductive Frame
  | list (items : List Value)
  | object (fields : List (Text × Value)) (key : Text)

inductive Expected
  | value
  | itemOrEnd
  | keyOrEnd
  | key (fields : List (Text × Value))
  | colon (fields : List (Text × Value)) (key : Text)
  | delimiter (v : Value)

def objectOf (fields : List (Text × Value)) : Value :=
  .object (Association.ofList fields.reverse)

def complain (complaint : Complaint) (position : Nat) : Except ReadFailure Value :=
  .error (.malformed ⟨complaint, position⟩)

def enter (depth : Depth) (container : Container) (stack : List Frame) :
    Except ReadFailure Expected :=
  if depth.limit ≤ stack.length then .error (.tooDeep container)
  else match container with
    | .list => .ok .itemOrEnd
    | .object => .ok .keyOrEnd

/-- Reads on over the tokens of a document that ends at `finish`. -/
def run (depth : Depth) (finish : Nat) :
    Expected → List Frame → List (Nat × Token) → Except ReadFailure Value
  | .delimiter v, [], [] => .ok v
  | .delimiter _, [], (position, _) :: _ => complain .extraData position
  | .delimiter _, _ :: _, [] => complain .commaExpected finish
  | .delimiter v, .list items :: stack, (position, token) :: rest =>
    match token with
    | .mark .closeList => run depth finish (.delimiter (.list (v :: items).reverse)) stack rest
    | .mark .comma => run depth finish .value (.list (v :: items) :: stack) rest
    | _ => complain .commaExpected position
  | .delimiter v, .object fields key :: stack, (position, token) :: rest =>
    match token with
    | .mark .closeObject => run depth finish (.delimiter (objectOf ((key, v) :: fields))) stack rest
    | .mark .comma => run depth finish (.key ((key, v) :: fields)) stack rest
    | _ => complain .commaExpected position
  | .key _, _, [] => complain .keyExpected finish
  | .key fields, stack, (position, token) :: rest =>
    match token with
    | .text key => run depth finish (.colon fields key) stack rest
    | .badText fault => .error (.malformed fault)
    | _ => complain .keyExpected position
  | .keyOrEnd, _, [] => complain .keyExpected finish
  | .keyOrEnd, stack, (position, token) :: rest =>
    match token with
    | .mark .closeObject => run depth finish (.delimiter (.object [])) stack rest
    | .text key => run depth finish (.colon [] key) stack rest
    | .badText fault => .error (.malformed fault)
    | _ => complain .keyExpected position
  | .colon _ _, _, [] => complain .colonExpected finish
  | .colon fields key, stack, (position, token) :: rest =>
    match token with
    | .mark .colon => run depth finish .value (.object fields key :: stack) rest
    | _ => complain .colonExpected position
  | .value, _, [] => complain .valueExpected finish
  | .value, stack, (position, token) :: rest =>
    match token with
    | .mark .openList => (enter depth .list stack).bind fun next => run depth finish next stack rest
    | .mark .openObject => (enter depth .object stack).bind fun next => run depth finish next stack rest
    | .text t => run depth finish (.delimiter (.text t)) stack rest
    | .value v => run depth finish (.delimiter v) stack rest
    | .tooLong digits => .error (.numeral (.tooLong digits))
    | .badText fault => .error (.malformed fault)
    | _ => complain .valueExpected position
  | .itemOrEnd, _, [] => complain .valueExpected finish
  | .itemOrEnd, stack, (position, token) :: rest =>
    match token with
    | .mark .closeList => run depth finish (.delimiter (.list [])) stack rest
    | .mark .openList =>
      (enter depth .list (.list [] :: stack)).bind fun next =>
        run depth finish next (.list [] :: stack) rest
    | .mark .openObject =>
      (enter depth .object (.list [] :: stack)).bind fun next =>
        run depth finish next (.list [] :: stack) rest
    | .text t => run depth finish (.delimiter (.text t)) (.list [] :: stack) rest
    | .value v => run depth finish (.delimiter v) (.list [] :: stack) rest
    | .tooLong digits => .error (.numeral (.tooLong digits))
    | .badText fault => .error (.malformed fault)
    | _ => complain .valueExpected position

end Reader

/-- Reads a document. A byte order mark in front is refused. -/
def read (depth : Depth) (t : Text) : Except ReadFailure Value :=
  match t with
  | '\uFEFF' :: _ => .error (.malformed ⟨.byteOrderMark, 0⟩)
  | _ => Reader.run depth t.length .value [] (Token.scan t)

/-- The line of a position, and the column in it, both counted from 1. -/
def place (t : Text) (position : Nat) : Nat × Nat :=
  let before := t.take position
  (before.count '\n' + 1, (before.reverse.takeWhile fun c => c != '\n').length + 1)

def Fault.message (fault : Fault) (document : Text) : Text :=
  let (line, column) := place document fault.position
  fault.complaint.message ++ ": line " ++ Text.ofNat line ++ " column " ++ Text.ofNat column ++
    " (char " ++ Text.ofNat fault.position ++ ")"

end Json
end Copybook
