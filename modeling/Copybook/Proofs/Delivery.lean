import Copybook.CommandLine
import Copybook.Proofs.Filling
import Copybook.Proofs.Sources

/-!
What the command says about an import. That the output has been written is said of every import that
comes to its end, and it is true unless there was nothing to export, for then no file is touched. The
exit code is zero exactly when there are no errors and no trouble with files. -/
namespace Copybook

namespace Run

variable {typeMode : Bool} {depth : Json.Depth} {s : Settings} {given : Option Rule.Store}
  {w : World} {report : Report}

theorem performAll_succeeds_iff {ts : List Task} (hfault : (performAll typeMode ts w).fault = none) :
    (performAll typeMode ts w).succeeds = true ↔ (performAll typeMode ts w).errors = [] := by
  induction ts generalizing w with
  | nil => exact iff_of_true rfl rfl
  | cons t rest ih =>
    have hproblem : ∀ fault, (t.perform typeMode w).failure ≠ some (.fault fault) := by
      intro fault h
      simp [performAll, h] at hfault
    have hfirst := (told_perform t typeMode w hproblem).succeeds_iff
    rw [performAll_cons t rest hproblem] at hfault ⊢
    dsimp only at hfault ⊢
    rw [Bool.and_eq_true, List.append_eq_nil_iff, ih hfault]
    exact and_congr_left' hfirst

theorem perform_succeeds_iff (h : (perform depth s given w).result = .ok report) :
    report.succeeds = true ↔ report.errors = [] := by
  unfold perform at h
  split at h
  · cases h
  · obtain rfl := Except.ok.inj h
    simp [Report.refused]
  · dsimp only at h
    split at h
    · cases h
    · obtain rfl := Except.ok.inj h
      simp [Report.refused]
    · unfold harvest at h
      split at h
      · cases h
      · dsimp only at h
        split at h
        · cases h
        · rename_i hfault
          obtain rfl := Except.ok.inj h
          exact performAll_succeeds_iff hfault

end Run

namespace CommandLine

open Encoding (encodeUtf8)

/-- What the export of a report says: the type table in type mode, and the data objects otherwise. -/
def exportText (s : Settings) (r : Run.Report) : Text :=
  if s.typeMode.isTruthy then
    let table := r.types.getD .empty
    Csv.write ['\r', '\n'] (table.columns :: table.rows.map (TypeTable.cells table.columns))
  else DataObject.document (some Json.usualIndent) r.objects

/-- What an import has found when it comes to the export: the report, and the files as they are then. -/
def gathered (depth : Json.Depth) (s : Settings) (files : Files.Tree) :
    Except Fault (Run.Report × Files.Tree) :=
  match openStatus s files with
  | .error fault => .error fault
  | .ok (files, sink) =>
    let outcome := Run.perform depth s none ⟨files, [], sink, false⟩
    outcome.result.map fun report => (report, outcome.world.files)

/-- The fault that ends an import before it is done. -/
def fault? (depth : Json.Depth) (s : Settings) (files : Files.Tree) : Option Fault :=
  match gathered depth s files with
  | .error fault => some fault
  | .ok (report, before) => (deliver s report before).fault

variable {depth : Json.Depth} {s : Settings} {files before : Files.Tree} {path : Path}
  {report : Run.Report} {fault : Fault}

theorem read_deliver (hpath : s.outputFile = .path path) (hcontent : hasContent report = true)
    (hfault : (deliver s report before).fault = none) :
    (deliver s report before).files.read path = .ok (encodeUtf8 (exportText s report)) := by
  unfold deliver at hfault ⊢
  rw [if_neg (by simp [hcontent]), hpath] at hfault ⊢
  unfold exportText
  by_cases hmode : s.typeMode.isTruthy = true
  · rw [if_pos hmode] at hfault ⊢
    rw [if_pos hmode]
    have htext := TypeTable.text_exported (Output.strangers_of_writeTypes hfault)
    dsimp only at htext ⊢
    rw [← htext]
    exact Output.read_write hfault
  · rw [if_neg hmode] at hfault ⊢
    rw [if_neg hmode]
    exact Output.read_write hfault

theorem deliver_of_empty (hcontent : hasContent report = false) :
    deliver s report before = ⟨before, [], none⟩ := by
  rw [deliver, if_pos (by simp [hcontent])]

theorem importAll_done (console : Console) (h : gathered depth s files = .ok (report, before))
    (hfault : (deliver s report before).fault = none) :
    (importAll depth console s files).files = (deliver s report before).files ∧
      (importAll depth console s files).notices = summary s report ++ report.errors.map .error ∧
      (importAll depth console s files).ending = .code (if report.errors = [] then 0 else 1) := by
  unfold gathered at h
  unfold importAll
  cases hopen : openStatus s files with
  | error fault =>
    rw [hopen] at h
    cases h
  | ok opened =>
    rw [hopen] at h
    obtain ⟨opened, sink⟩ := opened
    dsimp only at h ⊢
    cases hresult : (Run.perform depth s none ⟨opened, [], sink, false⟩).result with
    | error fault => simp [hresult, Except.map] at h
    | ok found =>
      rw [hresult] at h
      obtain ⟨rfl, rfl⟩ := Prod.mk.inj (Except.ok.inj h)
      have hsucceeds := Run.perform_succeeds_iff hresult
      dsimp only
      rw [hfault]
      exact ⟨rfl, rfl, congrArg Ending.code (if_congr hsucceeds rfl rfl)⟩

theorem importAll_failed (console : Console) (h : fault? depth s files = some fault) :
    ∃ session : Session,
      session.notices = [] ∧ importAll depth console s files = session.failWith fault := by
  unfold fault? gathered at h
  unfold importAll
  cases hopen : openStatus s files with
  | error trouble =>
    rw [hopen] at h
    obtain rfl := Option.some.inj h
    exact ⟨_, rfl, rfl⟩
  | ok opened =>
    rw [hopen] at h
    obtain ⟨opened, sink⟩ := opened
    dsimp only at h ⊢
    cases hresult : (Run.perform depth s none ⟨opened, [], sink, false⟩).result with
    | error trouble =>
      rw [hresult] at h
      obtain rfl := Option.some.inj h
      exact ⟨_, rfl, rfl⟩
    | ok found =>
      rw [hresult] at h
      have hdelivery : (deliver s found _).fault = some fault := h
      dsimp only
      rw [hdelivery]
      exact ⟨_, rfl, rfl⟩

/-- Trouble with files is reported, and so it does not break the command. -/
def IsTrouble (fault : Fault) : Prop := ∃ trouble place, fault = .files (.trouble trouble place)

theorem failWith_cases (session : Session) (fault : Fault) :
    (IsTrouble fault ∧ (session.failWith fault).ending = .code 1 ∧
      ∃ text, (session.failWith fault).notices = [.error text]) ∨
    (¬ IsTrouble fault ∧ (session.failWith fault).ending = .broken fault ∧
      (session.failWith fault).notices = session.notices) := by
  unfold Session.failWith
  split
  · exact .inl ⟨⟨_, _, rfl⟩, rfl, _, rfl⟩
  · rename_i hother
    refine .inr ⟨?_, rfl, rfl⟩
    rintro ⟨trouble, place, rfl⟩
    exact hother trouble place rfl

theorem gathered_of_fault?_none (h : fault? depth s files = none) : ∃ report before,
    gathered depth s files = .ok (report, before) ∧ (deliver s report before).fault = none := by
  unfold fault? at h
  split at h
  · cases h
  · rename_i report before hgathered
    exact ⟨report, before, hgathered, h⟩

theorem written_mem_summary_iff (hpath : s.outputFile = .path path) :
    Notice.written path.toText ∈ summary s report ++ report.errors.map .error ↔
      s.quiet.isTruthy = false := by
  unfold summary
  cases s.quiet.isTruthy <;> simp [hpath]

/-- An import with an output file says that it has been written exactly when no fault ends it and it is
not quiet. The file then holds the export if there was something to export or if it held the same before;
without anything to export no file is touched. The exit code is zero exactly when no fault ends the import
and there are no errors; trouble with files makes it one, and any other fault breaks the command. -/
theorem importAll_reports (depth : Json.Depth) (console : Console)
    (hpath : s.outputFile = .path path) (files : Files.Tree) :
    let session := importAll depth console s files
    (Notice.written path.toText ∈ session.notices ↔
      s.quiet.isTruthy = false ∧ fault? depth s files = none) ∧
    (∀ report before, gathered depth s files = .ok (report, before) → fault? depth s files = none →
      (session.files.read path = .ok (encodeUtf8 (exportText s report)) ↔
        hasContent report = true ∨ before.read path = .ok (encodeUtf8 (exportText s report))) ∧
      (hasContent report = false → session.files = before)) ∧
    (session.ending = .code 0 ↔ fault? depth s files = none ∧
      ∃ report before, gathered depth s files = .ok (report, before) ∧ report.errors = []) ∧
    (session.ending = .code 1 ↔ (∃ fault, fault? depth s files = some fault ∧ IsTrouble fault) ∨
      fault? depth s files = none ∧
        ∃ report before, gathered depth s files = .ok (report, before) ∧ report.errors ≠ []) ∧
    ∀ fault, session.ending = .broken fault ↔ fault? depth s files = some fault ∧ ¬ IsTrouble fault := by
  intro session
  cases hfault : fault? depth s files with
  | some fault =>
    obtain ⟨start, hstart, hfailed⟩ := importAll_failed console hfault
    have hsession : session = start.failWith fault := hfailed
    rw [hsession]
    rcases failWith_cases start fault with ⟨htrouble, hending, text, hnotices⟩ |
      ⟨htrouble, hending, hnotices⟩
    · simp [hending, hnotices, htrouble]
    · rw [hstart] at hnotices
      refine ⟨by simp [hnotices], by simp, by simp [hending], by simp [hending, htrouble],
        fun other => ?_⟩
      rw [hending, Ending.broken.injEq, Option.some.injEq]
      exact ⟨fun h => ⟨h, h ▸ htrouble⟩, And.left⟩
  | none =>
    obtain ⟨report, before, hgathered, hdelivered⟩ := gathered_of_fault?_none hfault
    obtain ⟨hfiles, hnotices, hending⟩ := importAll_done console hgathered hdelivered
    have hfiles' : session.files = _ := hfiles
    have hnotices' : session.notices = _ := hnotices
    have hending' : session.ending = _ := hending
    rw [hfiles', hnotices', hending', hgathered]
    refine ⟨by simp [written_mem_summary_iff hpath], ?_, ?_, ?_, by simp⟩
    · rintro _ _ heq -
      obtain ⟨rfl, rfl⟩ := Prod.mk.inj (Except.ok.inj heq)
      cases hcontent : hasContent report with
      | true => simp [read_deliver hpath hcontent hdelivered]
      | false => simp [deliver_of_empty hcontent]
    · by_cases herrors : report.errors = [] <;> simp [herrors]
    · by_cases herrors : report.errors = [] <;> simp [herrors]

def emptySettings : Settings where
  directories := .paths [Path.ofText "D"]
  rulesFile := .path (Path.ofText "R")
  namespacePrefix := .value "P"
  outputFile := .path (Path.ofText "O")

def emptyFiles : Files.Tree :=
  ⟨[], [(["D"], .directory), (["R"], .file (encodeUtf8 "\x7b\"rules\": \x7b\x7d\x7d"))]⟩

/-- Nothing has been found in the directory, and that the output has been written is said all the
same. -/
theorem importAll_reports_empty :
    let session := importAll ⟨3, by decide⟩ ⟨20, false⟩ emptySettings emptyFiles
    emptySettings.complaints emptyFiles = .ok [] ∧
      Notice.written "O" ∈ session.notices ∧ session.ending = .code 0 ∧
      session.files.read (Path.ofText "O") = .error (.trouble .notFound "O") := by
  intro session
  have hfault : fault? ⟨3, by decide⟩ emptySettings emptyFiles = none := by decide
  have hfound : ((gathered ⟨3, by decide⟩ emptySettings emptyFiles).toOption.map fun found =>
      (found.1.errors, hasContent found.1, found.2.read (Path.ofText "O"))) =
        some ([], false, .error (.trouble .notFound "O")) := by decide
  obtain ⟨report, before, hgathered, -⟩ := gathered_of_fault?_none hfault
  rw [hgathered] at hfound
  simp only [Except.toOption, Option.map_some, Option.some.injEq, Prod.mk.injEq] at hfound
  obtain ⟨herrors, hcontent, hread⟩ := hfound
  have houtput : emptySettings.outputFile = .path (Path.ofText "O") := rfl
  obtain ⟨hwritten, hfiles, hending, -⟩ :=
    importAll_reports ⟨3, by decide⟩ ⟨20, false⟩ houtput emptyFiles
  refine ⟨by decide, hwritten.mpr ⟨rfl, hfault⟩,
    hending.mpr ⟨hfault, report, before, hgathered, herrors⟩, ?_⟩
  have hsame : session.files = before := (hfiles report before hgathered hfault).2 hcontent
  rw [hsame, hread]

end CommandLine
end Copybook
