import Copybook.Reader
import Copybook.Settings

/-!
Tasks. A run has one task for each of its sources: the parameters with which a reader of its own
reads everything there. -/
namespace Copybook
namespace Reader

def upcoming (r : Reader) : List Path :=
  match r.members with
  | some members => members.all.drop members.taken
  | none => []

/-- What reading on comes to: the data objects, and the failure that ended it. -/
structure Remainder where
  reader : Reader
  world : World
  objects : List DataObject
  failure : Option Failure

/-- Reads once for each member to come and once more, unless there is nothing or a failure before. -/
def readOver (r : Reader) (w : World) : List Path → Remainder
  | [] =>
    match r.read w with
    | ⟨r, w, .error failure⟩ => ⟨r, w, [], some failure⟩
    | ⟨r, w, .ok o⟩ => ⟨r, w, o.toList, none⟩
  | _ :: rest =>
    match r.read w with
    | ⟨r, w, .error failure⟩ => ⟨r, w, [], some failure⟩
    | ⟨r, w, .ok none⟩ => ⟨r, w, [], none⟩
    | ⟨r, w, .ok (some o)⟩ =>
      let more := r.readOver w rest
      { more with objects := o :: more.objects }

def readAll (r : Reader) (w : World) : Remainder := r.readOver w r.upcoming

end Reader

namespace Run

structure Task where
  /-- The source as it is named in messages. -/
  source : Text
  parameters : Parameters

def sharedParameters (s : Settings) (rules : Option Rule.Store) : Parameters where
  namespacePrefix := some s.namespacePrefix.data
  ruleStore := some (match rules with
    | some store => .store store
    | none => .other .null)
  ruleGroup := if s.ruleGroup.isTruthy then some s.ruleGroup.data else none
  case := some s.case.data
  encoding := some s.encoding.data

/-- A copybook without a name is shown as none. -/
def copybookTask (s : Settings) (rules : Option Rule.Store) (path : Text) : Task :=
  ⟨if path.isEmpty then "None" else path, { sharedParameters s rules with
    scope := some (.text Scope.copybook.word), copybookFile := some (.text path) }⟩

def directoryTask (s : Settings) (rules : Option Rule.Store) (path : Text) : Task :=
  ⟨path, { sharedParameters s rules with
    scope := some (.text Scope.directory.word), copybookDirectory := some (.text path),
    sortMembers := some s.sortMembers.data }⟩

/-- The tasks of a run, copybooks before directories. -/
def tasks (s : Settings) (rules : Option Rule.Store) : Except Fault (List Task) := do
  let copybooks ← s.copybooks.listed
  let directories ← s.directories.listed
  return copybooks.map (copybookTask s rules) ++ directories.map (directoryTask s rules)

structure Yield where
  world : World
  objects : List DataObject
  /-- The rows of a type table; a task that fails has none. -/
  rows : List TypeRow
  status : List Text
  failure : Option Failure

def rowsOf (r : Reader) : Option Failure → List TypeRow
  | some _ => []
  | none => match r.types with
    | some table => table.rows
    | none => []

def newReader (typeMode : Bool) : Reader :=
  if typeMode then Reader.new.enableTypeMode.1 else Reader.new

def Task.perform (t : Task) (typeMode : Bool) (w : World) : Yield :=
  match (newReader typeMode).init t.parameters w with
  | ⟨r, w, .error failure⟩ => ⟨(r.close w).2, [], [], r.status.lines, some failure⟩
  | ⟨r, w, .ok ()⟩ =>
    let rest := r.readAll w
    let (r, w) := rest.reader.close rest.world
    ⟨w, rest.objects, rowsOf r rest.failure, r.status.lines, rest.failure⟩

end Run
end Copybook
