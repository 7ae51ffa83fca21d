import Copybook.Rule.File
import Copybook.Run.Task
import Copybook.Settings.Check

/-!
Runs. A run harvests all of its sources one after the other. A source that fails with a problem is
reported and the run goes on with the next one; a fault ends the run. -/
namespace Copybook
namespace Run

structure Report where
  /-- Whether every source has been read to its end. -/
  succeeds : Bool
  objects : List DataObject
  /-- The types that were noted; in type mode only. -/
  types : Option TypeTable
  errors : List Text
  status : List Text

namespace Report

def refused (errors : List Text) : Report := ⟨false, [], none, errors, []⟩

def attributeCount (r : Report) : Nat := (r.objects.flatMap fun o => o.attributes).length

end Report

structure Progress where
  world : World
  succeeds : Bool
  objects : List DataObject
  rows : List TypeRow
  errors : List Text
  status : List Text
  fault : Option Fault

def failureRecord (source : Text) (problem : Problem) : Log.Record :=
  ⟨.error, Log.Channel.runs, "Import of " ++ source ++ " failed: " ++ problem.message⟩

def failureError (source : Text) (problem : Problem) : Text :=
  "Error importing " ++ source ++ ": " ++ problem.message

def Progress.after (p : Progress) (y : Yield) : Progress :=
  { p with objects := y.objects ++ p.objects, rows := y.rows ++ p.rows,
           status := y.status ++ p.status }

/-- Adds the error of a task that failed; the run does not succeed then. -/
def Progress.failed (p : Progress) (error : Text) : Progress :=
  { p with succeeds := false, errors := error :: p.errors }

def performAll (typeMode : Bool) : List Task → World → Progress
  | [], w => ⟨w, true, [], [], [], [], none⟩
  | t :: rest, w =>
    let y := t.perform typeMode w
    match y.failure with
    | some (.fault fault) => ⟨y.world, false, y.objects, [], [], [], some fault⟩
    | some (.problem problem) =>
      ((performAll typeMode rest (y.world.note [failureRecord t.source problem])).after y).failed
        (failureError t.source problem)
    | none => (performAll typeMode rest y.world).after y

def Progress.report (p : Progress) (typeMode : Bool) : Report :=
  ⟨p.succeeds, p.objects, if typeMode then some ⟨TypeTable.usualColumns, p.rows⟩ else none, p.errors,
    p.status⟩

/-- The rules of a run, with the records of reading them: those that are given, those of the rules
file, or in type mode none at all. -/
def rulesFor (depth : Json.Depth) (s : Settings) (given : Option Rule.Store) (files : Files.Tree) :
    Rule.Loading :=
  match given, s.rulesFile with
  | some store, _ => ⟨[], .ok store⟩
  | none, .path path => Rule.load depth files path s.ruleGroup.data
  | none, _ =>
    if s.typeMode.isTruthy then ⟨[], .ok (.empty .null)⟩
    else ⟨[], .error (.problem (.configuration "A rules file is required"))⟩

structure Outcome where
  world : World
  rules : Option Rule.Store
  /-- The data objects in the order in which they were read, also of a run that a fault ended. -/
  read : List DataObject
  result : Except Fault Report

def harvest (s : Settings) (rules : Rule.Store) (w : World) : Outcome :=
  match tasks s (some rules) with
  | .error fault => ⟨w, some rules, [], .error fault⟩
  | .ok ts =>
    let typeMode := s.typeMode.isTruthy
    let progress := performAll typeMode ts w
    ⟨progress.world, some rules, progress.objects, match progress.fault with
      | some fault => .error fault
      | none => .ok (progress.report typeMode)⟩

/-- Carries out a run. Settings that are wrong, and rules that cannot be had, end it before it has
begun. -/
def perform (depth : Json.Depth) (s : Settings) (given : Option Rule.Store) (w : World) : Outcome :=
  match s.complaints w.files with
  | .error fault => ⟨w, given, [], .error fault⟩
  | .ok (complaint :: more) => ⟨w, given, [], .ok (.refused (complaint :: more))⟩
  | .ok [] =>
    let loading := rulesFor depth s given w.files
    let w := w.note loading.notes
    match loading.result with
    | .error (.fault fault) => ⟨w, given, [], .error fault⟩
    | .error (.problem problem) => ⟨w, given, [], .ok (.refused [problem.message])⟩
    | .ok rules => harvest s rules w

end Run
end Copybook
