import Copybook.Failure
import Copybook.Log

/-!
Status lines. They are kept in memory, logged, and sent to a sink that may fail; a line is kept even
when the sink does not take it. -/
namespace Copybook

inductive Sink
  /-- Keeps what it takes; with `room` it takes that many more writes and then fails. -/
  | memory (content : Text) (room : Option Nat)
  | closed
  /-- An open file. -/
  | file (place : Files.Place)
  deriving DecidableEq, Repr

/-- What a harvest works in: the files, the log so far, and the sink of the status lines. -/
structure World where
  files : Files.Tree
  log : List Log.Record
  sink : Option Sink
  /-- Whether closing a copybook fails after it has been closed. -/
  closeFails : Bool

namespace World

def note (w : World) (records : List Log.Record) : World := { w with log := w.log ++ records }

def send (w : World) (text : Text) : World × Option Text :=
  match w.sink with
  | none => (w, none)
  | some .closed => (w, some "I/O operation on closed file")
  | some (.memory _ (some 0)) => (w, some "disk full")
  | some (.memory content (some (room + 1))) =>
    ({ w with sink := some (.memory (content ++ text) (some room)) }, none)
  | some (.memory content none) => ({ w with sink := some (.memory (content ++ text) none) }, none)
  | some (.file place) =>
    ({ w with files := w.files.append place (Encoding.encodeUtf8 text) }, none)

def written (w : World) : Option Text :=
  match w.sink with
  | some (.memory content _) => some content
  | _ => none

end World

structure StatusLog where
  lines : List Text
  suppressed : Bool
  deriving DecidableEq, Repr

namespace StatusLog

def empty : StatusLog := ⟨[], false⟩

structure Outcome where
  status : StatusLog
  world : World
  problem : Option Problem

def append (s : StatusLog) (line : Text) (w : World) : Outcome :=
  if s.suppressed then ⟨s, w, none⟩
  else
    let s := { s with lines := s.lines ++ [line] }
    match (w.note [⟨.info, Log.Channel.status, line⟩]).send (line ++ ['\n']) with
    | (w, none) => ⟨s, w, none⟩
    | (w, some reason) => ⟨s, w, some (.read ("Unable to write status line: " ++ reason))⟩

/-- Appends lines up to the first that the sink does not take. -/
def appendAll (s : StatusLog) : List Text → World → Outcome
  | [], w => ⟨s, w, none⟩
  | line :: rest, w =>
    match s.append line w with
    | ⟨s, w, none⟩ => s.appendAll rest w
    | outcome => outcome

def separator : Text := List.replicate 43 '-'

def banner (s : StatusLog) (line : Text) (w : World) : Outcome :=
  s.appendAll [separator, line, separator] w

def clear (s : StatusLog) : StatusLog := { s with lines := [] }

def describe (s : StatusLog) : Text := "StatusLog(" ++ Text.ofNat s.lines.length ++ " lines)"

end StatusLog
end Copybook
