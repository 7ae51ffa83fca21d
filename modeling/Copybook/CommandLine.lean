import Copybook.CommandLine.Arguments
import Copybook.Log.Setup
import Copybook.Output
import Copybook.Run

/-!
The command: from the words of a command line to files, output and an exit code. Log records and
notices go to the error output, records first. -/
namespace Copybook
namespace CommandLine

def program : Text := "cobol-dataimport"

def versionLine : Text := program ++ " 1.0.0" ++ ['\n']

def usageLine : Text := "usage: " ++ program ++ " [options]" ++ ['\n']

def helpText : Text :=
  usageLine ++ Switch.all.flatMap fun s =>
    [' ', ' '] ++ Text.join ", " s.names ++ (if s.takesValue then (" VALUE" : Text) else []) ++ ['\n']

inductive Notice
  | configuration (complaint : Text)
  | error (text : Text)
  | imported (objects attributes : Nat)
  | written (path : Text)
  deriving DecidableEq, Repr

def Notice.line (seconds : Text) : Notice → Text
  | .configuration complaint => "Configuration error: " ++ complaint
  | .error text => "Error: " ++ text
  | .imported objects attributes =>
    "Imported " ++ Text.ofNat objects ++ " data objects, " ++ Text.ofNat attributes ++
      " attributes in " ++ seconds ++ " seconds"
  | .written path => "Output written to " ++ path

inductive Ending
  | code (n : Nat)
  | stopped (s : Stop)
  /-- By a fault that it does not handle. -/
  | broken (f : Fault)
  deriving DecidableEq, Repr

def Ending.exitCode : Ending → Nat
  | .code n => n
  | .stopped (.refused _) => 2
  | .stopped _ => 0
  | .broken _ => 1

/-- How log records are shown: from which weight on, and whether in detail. -/
structure Console where
  weight : Nat
  detailed : Bool
  deriving DecidableEq, Repr

structure Session where
  files : Files.Tree
  output : Text := []
  console : Console := ⟨20, false⟩
  log : List Log.Record := []
  notices : List Notice := []
  ending : Ending

namespace Session

/-- The error output. A refused command line is answered with the usage and the refusal. -/
def errorOutput (time seconds : Text) (s : Session) : Text :=
  Log.console s.console.weight s.console.detailed time s.log ++
    s.notices.flatMap (fun notice => notice.line seconds ++ ['\n']) ++
    match s.ending with
    | .stopped (.refused r) => usageLine ++ program ++ ": error: " ++ r.message ++ ['\n']
    | _ => []

def stopped (files : Files.Tree) (stop : Stop) : Session where
  files := files
  output := match stop with
    | .help => helpText
    | .version => versionLine
    | .refused _ => []
  ending := .stopped stop

def broken (files : Files.Tree) (fault : Fault) : Session where
  files := files
  ending := .broken fault

/-- Ends an import with a fault. Trouble with files is reported, any other fault breaks the command. -/
def failWith (s : Session) (fault : Fault) : Session :=
  match fault with
  | .files (.trouble trouble path) =>
    { s with notices := [.error (Files.Fault.trouble trouble path).message], ending := .code 1 }
  | fault => { s with ending := .broken fault }

end Session

def hasContent (r : Run.Report) : Bool :=
  !r.objects.isEmpty || match r.types with
    | some table => !table.rows.isEmpty
    | none => false

structure Delivery where
  files : Files.Tree
  output : Text
  fault : Option Fault

def deliverTypes (table : TypeTable) (files : Files.Tree) : Setting → Delivery
  | .path p =>
    let attempt := Output.writeTypes files p table
    ⟨attempt.files, [], attempt.fault⟩
  | _ => ⟨files, table.format ++ ['\n'], none⟩

def deliverObjects (objects : List DataObject) (files : Files.Tree) : Setting → Delivery
  | .path p =>
    let attempt := Output.writeObjects files p objects
    ⟨attempt.files, [], attempt.fault⟩
  | _ => ⟨files, DataObject.document (some Json.usualIndent) objects ++ ['\n'], none⟩

/-- Exports a report to the output file, or to the output where none is set. -/
def deliver (s : Settings) (r : Run.Report) (files : Files.Tree) : Delivery :=
  if !hasContent r then ⟨files, [], none⟩
  else if s.typeMode.isTruthy then
    deliverTypes (r.types.getD .empty) files s.outputFile
  else deliverObjects r.objects files s.outputFile

def summary (s : Settings) (r : Run.Report) : List Notice :=
  if s.quiet.isTruthy then []
  else .imported r.objects.length r.attributeCount ::
    match s.outputFile with
    | .path p => [.written p.toText]
    | _ => []

/-- Opens the status file, which empties it. -/
def openStatus (s : Settings) (files : Files.Tree) : Except Fault (Files.Tree × Option Sink) :=
  match s.statusFile with
  | .path p =>
    match files.create p with
    | .error fault => .error (.files fault)
    | .ok (place, files) => .ok (files, some (.file place))
  | _ => .ok (files, none)

def importAll (depth : Json.Depth) (console : Console) (s : Settings) (files : Files.Tree) :
    Session :=
  match openStatus s files with
  | .error fault => { Session.broken files fault with console := console }.failWith fault
  | .ok (files, sink) =>
    let outcome := Run.perform depth s none ⟨files, [], sink, false⟩
    let session : Session :=
      { files := outcome.world.files, console := console, log := outcome.world.log,
        ending := .code 0 }
    match outcome.result with
    | .error fault => session.failWith fault
    | .ok report =>
      let delivery := deliver s report outcome.world.files
      let session := { session with files := delivery.files, output := delivery.output }
      match delivery.fault with
      | some fault => session.failWith fault
      | none =>
        { session with
          notices := summary s report ++ report.errors.map .error,
          ending := .code (if report.succeeds then 0 else 1) }

def consoleOf (s : Settings) : Except Fault Console := do
  return ⟨← Log.configure (← s.logLevel.text), s.verbose.isTruthy⟩

/-- Sets up the log, checks the settings and imports. -/
def carryOut (depth : Json.Depth) (s : Settings) (files : Files.Tree) : Session :=
  match consoleOf s with
  | .error fault => .broken files fault
  | .ok console =>
    match s.complaints files with
    | .error fault => { Session.broken files fault with console := console }
    | .ok [] => importAll depth console s files
    | .ok complaints =>
      { files := files, console := console, notices := complaints.map .configuration,
        ending := .code 1 }

def call (depth : Json.Depth) (words : List Text) (files : Files.Tree) : Session :=
  match Arguments.read words with
  | .error stop => .stopped files stop
  | .ok a =>
    match a.effective depth files with
    | .error fault => .broken files fault
    | .ok s => carryOut depth s files

end CommandLine
end Copybook
