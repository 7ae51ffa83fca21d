import Copybook.Entry
import Copybook.Sentence
import Copybook.Untyped.Basic

/-!
Pictures, literals, words and lines given as values of any kind. A picture may be a list of pieces,
and the words of an entry may hold what is no word. -/
namespace Copybook
namespace Untyped

/-- The picture that pieces make up. No count can follow a piece, for only in a text can the end of
a count be looked for. -/
def expandPieces (pieces : List Json.Value) : Except Failure Text :=
  match pieces.idxOf? (.text ['(']) with
  | some 0 => match (Json.Value.list pieces).display with
    | .error problem => .error (.fault (.numeral problem))
    | .ok picture => .error ((EntryFailure.malformed (.noSymbol picture)).toFailure none 0)
  | some _ => .error (.fault .wrongShape)
  | none => match pieces.mapM Json.Value.text? with
    | some parts => .ok parts.flatten
    | none => .error (.fault .wrongType)

def expand : Json.Value → Except Failure Text
  | .text t => (Picture.expand t).mapError (·.toFailure none 0)
  | .list pieces => expandPieces pieces
  | .object [] => .ok []
  | .object _ => .error (.fault (noEntry 0))
  | _ => .error (.fault .wrongType)

/-- The short form of pieces after a run of single symbols; longer pieces stay as they are. -/
def compactPieces : Text → List Text → Text
  | run, [] => Picture.compact run
  | run, [c] :: rest => compactPieces (run ++ [c]) rest
  | run, piece :: rest => Picture.compact run ++ piece ++ compactPieces [] rest

def compact : Json.Value → Except Fault Text
  | .text t => .ok (Picture.compact t)
  | .list pieces => (pieces.mapM text).map (compactPieces [])
  | .object [] => .ok []
  | .object _ => .error (noEntry 0)
  | _ => .error .wrongType

/-- A list loses a pair of equal quotes around it as a text does. -/
def stripQuotes : Json.Value → Except Fault Json.Value
  | .text t => .ok (.text (Clause.stripQuotes t))
  | .list items => .ok (.list (match items with
    | .text [q] :: rest =>
      if Clause.isQuote q && rest.getLast? == some (.text [q]) then rest.dropLast else items
    | _ => items))
  | .object (_ :: _ :: _) => .error (noEntry 0)
  | .object fields => .ok (.object fields)
  | _ => .error .wrongType

structure Clauses where
  level : Except Failure Int
  name : Text
  picture : Text
  usage : Text
  value : Text

namespace Clauses

def ofWords (words : List Text) : Clauses where
  level := (Clause.level words).mapError fun flaw => (EntryFailure.malformed flaw).toFailure none 0
  name := Clause.name words
  picture := Clause.picture words
  usage := Clause.usage words
  value := Clause.value words

def keywordsPass (words : List Text) : Bool :=
  let keywords : List (List Text) := [Word.pictureWords, ["USAGE"], Word.valueWords]
  keywords.all fun few => match Clause.find? few words with
    | some (_, rest) => !rest.isEmpty
    | none => false

/-- The fault of words that hold what is no word after the words `before`: the value is put together
from it, or else it is compared with a keyword. -/
def strangerFault (before : List Text) : Fault :=
  if keywordsPass before then .wrongType else .wrongShape

def ofList (words : List Json.Value) : Except Fault Clauses :=
  match words.mapM Json.Value.text? with
  | some words => .ok (ofWords words)
  | none => .error (strangerFault ((words.takeWhile fun w => w.text?.isSome).filterMap Json.Value.text?))

/-- The words of a value. The only key of an object is found when words are gone through, but not by
its position. -/
def ofValue : Json.Value → Except Fault Clauses
  | .list words => ofList words
  | .text t => .ok (ofWords (t.map fun c => [c]))
  | .object [] => .ok (ofWords [])
  | .object [(key, _)] =>
    if Word.isOneOf Word.valueWords key then .error (noEntry 0)
    else .ok { ofWords [key] with level := .error (.fault (noEntry 0)) }
  | .object _ => .error (noEntry 1)
  | _ => .error .wrongType

end Clauses

/-- The scan of lines; every line has to be a text. -/
def scan (v : Json.Value) : Except Fault Sentence.Scan := do
  return Sentence.scan (← (← elements v).mapM text)

end Untyped
end Copybook
