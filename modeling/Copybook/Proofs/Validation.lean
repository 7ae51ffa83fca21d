import Copybook.Proofs.Directory
import Copybook.Proofs.Settings
import Copybook.Proofs.TypeRows

/-!
The readers of a run whose settings are in order. Whatever such a reader is told, it finds its source
or reports that the source is missing or of the wrong kind. Only a path that is too long to be looked
at keeps it from both. -/
namespace Copybook

namespace Files.Tree

variable {t : Tree} {p : Path}

/-- A path that is too long to be looked at, as a whole or in one of its names. -/
def IsOutOfReach (t : Tree) (p : Path) : Prop := t.locate p = .error (.trouble .nameTooLong p.toText)

instance (t : Tree) (p : Path) : Decidable (t.IsOutOfReach p) :=
  inferInstanceAs (Decidable (_ = _))

theorem name_of_locate {trouble : Trouble} {name : Text}
    (h : t.locate p = .error (.trouble trouble name)) : name = p.toText := by
  have htold : ∀ place : Except Trouble Place,
      place.mapError (fun trouble => Fault.trouble trouble p.toText) = .error (.trouble trouble name) →
        name = p.toText := by
    intro place hplace
    cases place with
    | error other => exact (Fault.trouble.inj (Except.error.inj hplace)).2.symm
    | ok place => cases hplace
  unfold locate at h
  split at h
  · cases h
  · exact htold _ h

theorem find_outOfReach_iff {name : Text} :
    t.find p = .error (.trouble .nameTooLong name) ↔ t.IsOutOfReach p ∧ name = p.toText := by
  unfold find IsOutOfReach
  cases hlocate : t.locate p with
  | error fault =>
    constructor
    · intro h
      obtain rfl := Except.error.inj h
      obtain rfl := name_of_locate hlocate
      exact ⟨rfl, rfl⟩
    · rintro ⟨h, rfl⟩
      obtain rfl := Except.error.inj h
      rfl
  | ok place =>
    dsimp only
    cases t.node? place <;> simp

theorem look_outOfReach (h : t.IsOutOfReach p) :
    t.look p = .error (.trouble .nameTooLong p.toText) := by
  rw [look, find_outOfReach_iff.mpr ⟨h, rfl⟩]

theorem look_eq_find (h : ¬ t.IsOutOfReach p) : t.look p = .ok (t.find p).toOption := by
  unfold look
  split
  · rename_i node hnode
    rw [hnode]
    rfl
  · rename_i name hname
    exact absurd (find_outOfReach_iff.mp hname).1 h
  · rename_i fault _ hfault
    rw [hfault]
    rfl

end Files.Tree

namespace Source

def path : Source → Path
  | .copybook path | .directory path => path

/-- What is wrong with a source at whose path there is some node or none. -/
def problem? : Source → Option Files.Node → Option Problem
  | .copybook path, none => some (.noCopybook path.toText)
  | .copybook path, some .directory => some (.notAFile path.toText)
  | .copybook _, some (.file _) => none
  | .directory path, none => some (.noDirectory path.toText)
  | .directory path, some (.file _) => some (.notADirectory path.toText)
  | .directory _, some .directory => none

/-- Whether there is a file at the path of a copybook, or a directory at that of a directory. -/
def IsThere (files : Files.Tree) : Source → Prop
  | .copybook path => ∃ content, files.find path = .ok (.file content)
  | .directory path => files.find path = .ok .directory

/-- A source that cannot be looked at: its path is out of reach, or that of an entry of its
directory. Length is all that puts a path out of reach here, for files have no permissions and devices
do not fail. -/
inductive IsObscured (files : Files.Tree) : Source → Prop
  | path {source : Source} : files.IsOutOfReach source.path → IsObscured files source
  | entry {directory entry : Path} : files.find directory = .ok .directory →
      entry ∈ Members.entries files directory → files.IsOutOfReach entry →
      IsObscured files (.directory directory)

/-- A reader that can serve a source which is there, and else reports a problem with the source. -/
def Answers (files : Files.Tree) (source : Source) (result : Except Failure Unit) : Prop :=
  (source.IsThere files ∧ result = .ok ()) ∨
    (¬ source.IsThere files ∧ ∃ problem : Problem, problem.kind = .source ∧
      result = .error (.problem problem))

def check (files : Files.Tree) (source : Source) : Except Failure Unit := do
  match source.problem? (← ReaderConfig.lookAt files source.path) with
  | some problem => .error (.problem problem)
  | none => .ok ()

/-- What a look at a source and at the entries of its directory comes to. -/
def survey (files : Files.Tree) (source : Source) : Except Failure Unit := do
  source.check files
  match Members.trouble? files source with
  | some fault => .error (.fault (.files fault))
  | none => .ok ()

variable {files : Files.Tree} {source : Source}

theorem problem?_kind {node : Option Files.Node} {problem : Problem}
    (h : source.problem? node = some problem) : problem.kind = .source := by
  unfold problem? at h
  split at h <;> cases h <;> rfl

theorem problem?_find_iff : source.problem? (files.find source.path).toOption = none ↔
    source.IsThere files := by
  cases source with
  | copybook path =>
    simp only [Source.path, IsThere]
    cases files.find path with
    | error fault => simp [problem?, Except.toOption]
    | ok node => cases node <;> simp [problem?, Except.toOption]
  | directory path =>
    simp only [Source.path, IsThere]
    cases files.find path with
    | error fault => simp [problem?, Except.toOption]
    | ok node => cases node <;> simp [problem?, Except.toOption]

theorem trouble?_eq_none_iff (directory : Path) :
    Members.trouble? files (.directory directory) = none ↔
      ∀ entry ∈ Members.entries files directory, ¬ files.IsOutOfReach entry := by
  rw [Members.trouble?, List.findSome?_eq_none_iff]
  refine forall₂_congr fun entry _ => ?_
  by_cases hreach : files.IsOutOfReach entry
  · simp [Files.Tree.hasFile, Files.Tree.look_outOfReach hreach, hreach, Except.map]
  · simp [Files.Tree.hasFile, Files.Tree.look_eq_find hreach, hreach, Except.map]

theorem check_outOfReach (h : files.IsOutOfReach source.path) :
    source.check files = .error (.fault (.files (.trouble .nameTooLong source.path.toText))) := by
  rw [check, ReaderConfig.lookAt, Files.Tree.look_outOfReach h]
  rfl

theorem check_eq (h : ¬ files.IsOutOfReach source.path) : source.check files =
    match source.problem? (files.find source.path).toOption with
    | some problem => .error (.problem problem)
    | none => .ok () := by
  rw [check, ReaderConfig.lookAt, Files.Tree.look_eq_find h]
  rfl

theorem survey_problem {problem : Problem} (h : source.survey files = .error (.problem problem)) :
    source.problem? (files.find source.path).toOption = some problem := by
  by_cases hreach : files.IsOutOfReach source.path
  · rw [survey, check_outOfReach hreach] at h
    cases h
  · rw [survey, check_eq hreach] at h
    cases hproblem : source.problem? (files.find source.path).toOption with
    | some other =>
      rw [hproblem] at h
      rw [Failure.problem.inj (Except.error.inj h)]
    | none =>
      rw [hproblem] at h
      dsimp only [bind, Except.bind] at h
      split at h <;> cases h

theorem survey_answers_iff : source.Answers files (source.survey files) ↔
    ¬ source.IsObscured files := by
  by_cases hreach : files.IsOutOfReach source.path
  · refine iff_of_false ?_ (not_not.mpr (.path hreach))
    rw [survey, check_outOfReach hreach]
    rintro (⟨-, h⟩ | ⟨-, problem, -, h⟩) <;> cases h
  rw [survey, check_eq hreach]
  cases hproblem : source.problem? (files.find source.path).toOption with
  | some problem =>
    have hthere : ¬ source.IsThere files := by
      rw [← problem?_find_iff, hproblem]
      exact Option.some_ne_none problem
    refine iff_of_true (.inr ⟨hthere, problem, problem?_kind hproblem, rfl⟩) ?_
    rintro (hpath | ⟨hfind, -, -⟩)
    · exact hreach hpath
    · exact hthere hfind
  | none =>
    have hthere := problem?_find_iff.mp hproblem
    cases source with
    | copybook path =>
      refine iff_of_true (.inl ⟨hthere, rfl⟩) ?_
      rintro (hpath | _)
      exact hreach hpath
    | directory directory =>
      dsimp only [bind, Except.bind]
      cases htrouble : Members.trouble? files (.directory directory) with
      | some fault =>
        have hentry : ¬ ∀ entry ∈ Members.entries files directory, ¬ files.IsOutOfReach entry := by
          rw [← trouble?_eq_none_iff, htrouble]
          exact Option.some_ne_none fault
        simp only [not_forall, not_not] at hentry
        obtain ⟨entry, hmem, hout⟩ := hentry
        refine iff_of_false ?_ (not_not.mpr (.entry hthere hmem hout))
        rintro (⟨-, h⟩ | ⟨-, problem, -, h⟩) <;> cases h
      | none =>
        refine iff_of_true (.inl ⟨hthere, rfl⟩) ?_
        rintro (hpath | ⟨-, hmem, hout⟩)
        · exact hreach hpath
        · exact (trouble?_eq_none_iff directory).mp htrouble _ hmem hout

end Source

/-! ### The source that parameters name -/

def Parameters.Names (p : Parameters) : Source → Prop
  | .copybook path =>
    p.scope = some (.text Scope.copybook.word) ∧ p.copybookFile = some (.text path.toText)
  | .directory path =>
    p.scope = some (.text Scope.directory.word) ∧ p.copybookDirectory = some (.text path.toText)

namespace ReaderConfig

variable {files : Files.Tree} {source : Source}

theorem checkScope_directory :
    checkScope (some (.text Scope.directory.word)) = .ok .directory := by
  decide +kernel

theorem checkFile_toText (path : Path) (h : path.IsNormal) :
    checkFile files (some (.text path.toText)) =
      ((Source.copybook path).check files).map fun _ => path := by
  have hpath : Path.ofText path.toText = path := Path.ofText_toText h
  simp only [checkFile, Parameters.given, pathOf, bind, Except.bind,
    Source.check, Source.path, hpath]
  cases lookAt files path with
  | error failure => rfl
  | ok node =>
    cases node with
    | none => rfl
    | some node => cases node <;> rfl

theorem checkDirectory_toText (path : Path) (h : path.IsNormal) :
    checkDirectory files (some (.text path.toText)) =
      ((Source.directory path).check files).map fun _ => path := by
  have hpath : Path.ofText path.toText = path := Path.ofText_toText h
  simp only [checkDirectory, Parameters.given, pathOf, bind, Except.bind,
    Source.check, Source.path, hpath]
  cases lookAt files path with
  | error failure => rfl
  | ok node =>
    cases node with
    | none => rfl
    | some node => cases node <;> rfl

/-- Of a source that is named all that can be found fault with is seen by looking at it. -/
theorem checkSource_of_names {p : Parameters} (hp : p.Names source) (h : source.path.IsNormal) :
    checkSource files p = (source.check files).map fun _ => source := by
  cases source with
  | copybook path =>
    obtain ⟨hscope, hfile⟩ := hp
    rw [checkSource, hscope, checkScope_copybook, hfile]
    change (checkFile files (some (.text path.toText)) >>= fun path =>
      pure (Source.copybook path)) = _
    rw [checkFile_toText path h]
    cases (Source.copybook path).check files <;> rfl
  | directory path =>
    obtain ⟨hscope, hdirectory⟩ := hp
    rw [checkSource, hscope, checkScope_directory, hdirectory]
    change (checkDirectory files (some (.text path.toText)) >>= fun path =>
      pure (Source.directory path)) = _
    rw [checkDirectory_toText path h]
    cases (Source.directory path).check files <;> rfl

end ReaderConfig

/-! ### The readers of a run -/

namespace Reader

theorem init_result (r : Reader) (p : Parameters) (w : World) :
    (r.init p w).result = (verdict r.typeMode w.files p).map fun _ => () := by
  have hcases := init_cases r p w
  cases hverdict : verdict r.typeMode w.files p with
  | ok config =>
    rw [hverdict] at hcases
    obtain ⟨records, hinit⟩ := hcases
    rw [hinit]
    rfl
  | error failure =>
    rw [hverdict] at hcases
    cases failure with
    | problem problem =>
      obtain ⟨members, hinit⟩ := hcases
      rw [hinit]
      exact (fail_spec _ w problem).1
    | fault fault =>
      have hinit : r.init p w = ⟨r, w, .error (.fault fault)⟩ := hcases
      rw [hinit]
      rfl

end Reader

namespace Run

variable {s : Settings} {files : Files.Tree} {source : Source}

def taskOf (s : Settings) (rules : Option Rule.Store) : Source → Task
  | .copybook path => copybookTask s rules path.toText
  | .directory path => directoryTask s rules path.toText

theorem listed_paths (paths : List Path) :
    (Setting.paths paths).listed = .ok (paths.map Path.toText) := by
  have hwritable := Setting.isWritable_data_paths paths
  rw [Setting.data_paths] at hwritable
  simp only [Setting.listed, Setting.data_paths, Untyped.elements, hwritable, if_true, List.map_map]
  rfl

theorem tasks_paths {copybooks directories : List Path} (hcopybooks : s.copybooks = .paths copybooks)
    (hdirectories : s.directories = .paths directories) (rules : Option Rule.Store) :
    tasks s rules = .ok
      ((copybooks.map Source.copybook ++ directories.map Source.directory).map (taskOf s rules)) := by
  rw [tasks, hcopybooks, hdirectories, listed_paths, listed_paths, List.map_append, List.map_map,
    List.map_map]
  dsimp only [bind, Except.bind]
  rw [List.map_map, List.map_map]
  rfl

theorem checkSource_taskOf (h : source.path.IsNormal) (rules : Option Rule.Store) :
    ReaderConfig.checkSource files (taskOf s rules source).parameters =
      (source.check files).map fun _ => source := by
  refine ReaderConfig.checkSource_of_names ?_ h
  cases source <;> exact ⟨rfl, rfl⟩

theorem checkSorting_taskOf (htyped : s.IsTyped) (rules : Option Rule.Store) (source : Source) :
    ∃ sorted, ReaderConfig.checkSorting (taskOf s rules source).parameters.sortMembers =
      .ok sorted := by
  obtain ⟨sorted, hsorted⟩ := htyped.sortMembers
  cases source with
  | copybook path => exact ⟨false, rfl⟩
  | directory path =>
    refine ⟨sorted, ?_⟩
    change ReaderConfig.checkSorting (some s.sortMembers.data) = _
    rw [hsorted]
    rfl

theorem shared_taskOf (rules : Option Rule.Store) (source : Source) :
    let p := (taskOf s rules source).parameters
    p.namespacePrefix = some s.namespacePrefix.data ∧ p.case = some s.case.data ∧
      p.ruleStore = (sharedParameters s rules).ruleStore := by
  cases source <;> exact ⟨rfl, rfl, rfl⟩

theorem ofParameters_taskOf (htyped : s.IsTyped) (hvalid : s.complaints files = .ok [])
    (h : source.path.IsNormal) (rules : Rule.Store) (found : Files.Tree) :
    ∃ config, config.source = source ∧
      ReaderConfig.ofParameters found (taskOf s (some rules) source).parameters =
        (source.check found).map fun _ => config := by
  obtain ⟨⟨space, hspace, hsolid⟩, ⟨mode, hmode⟩, -⟩ := Settings.complaints_nil hvalid
  obtain ⟨sorted, hsorted⟩ := checkSorting_taskOf htyped (some rules) source
  obtain ⟨hgiven, hcase, hstore⟩ := shared_taskOf (s := s) (some rules) source
  have hprefix : ReaderConfig.checkPrefix (some s.namespacePrefix.data) = .ok space.trim := by
    obtain ⟨t, ht⟩ := htyped.namespacePrefix
    rw [ht] at hspace ⊢
    obtain rfl : t = space := Except.ok.inj hspace
    have hempty : ¬ t.trim.isEmpty = true := by simpa using hsolid
    exact if_neg hempty
  have hrules : ReaderConfig.checkRules (sharedParameters s (some rules)).ruleStore = .ok rules := rfl
  refine ⟨⟨source, space.trim, rules, (taskOf s (some rules) source).parameters.ruleGroup.getD .null,
    mode, ReaderConfig.encodingOf (taskOf s (some rules) source).parameters.encoding, sorted⟩, rfl, ?_⟩
  rw [ReaderConfig.ofParameters, checkSource_taskOf h, hgiven, hcase, hstore, hprefix, hrules,
    Settings.checkCase_caseMode? hmode, hsorted]
  cases source.check found <;> rfl

theorem typeMode_newReader (typeMode : Bool) : (newReader typeMode).typeMode = typeMode := by
  cases typeMode <;> rfl

/-- A new reader makes of a task what a survey of its source comes to. -/
theorem init_taskOf (htyped : s.IsTyped) (hvalid : s.complaints files = .ok [])
    (h : source.path.IsNormal)
    (hmode : s.typeMode.isTruthy = true → ∃ path, source = .copybook path) (rules : Rule.Store)
    (w : World) :
    ((newReader s.typeMode.isTruthy).init (taskOf s (some rules) source).parameters w).result =
      source.survey w.files := by
  obtain ⟨config, hsource, hconfig⟩ := ofParameters_taskOf htyped hvalid h rules w.files
  have hallowed : (if s.typeMode.isTruthy then Reader.checkTypeMode config else .ok ()) = .ok () := by
    split
    · rename_i htype
      obtain ⟨path, hcopybook⟩ := hmode htype
      rw [Reader.checkTypeMode, ReaderConfig.scope, hsource, hcopybook]
    · rfl
  rw [Reader.init_result, Reader.verdict, hconfig, typeMode_newReader, Source.survey, ← hsource]
  cases config.source.check w.files with
  | error failure => rfl
  | ok _ =>
    simp only [Except.map, bind, Except.bind, hallowed]
    cases Members.trouble? w.files config.source <;> rfl

/-- Each reader of a run whose settings are in order makes of its task what a look at the source comes
to, and the only problems are problems with the source. So it can serve a source that is there and
reports one that is missing or of the wrong kind, if and only if the source can be looked at. -/
theorem init_answers_iff (htyped : s.IsTyped) (hvalid : s.complaints files = .ok [])
    (rules : Rule.Store) :
    ∃ copybooks directories : List Path, s.copybooks = .paths copybooks ∧
      s.directories = .paths directories ∧
      let sources := copybooks.map Source.copybook ++ directories.map Source.directory
      tasks s (some rules) = .ok (sources.map (taskOf s (some rules))) ∧
      ∀ source ∈ sources, ∀ w : World,
        let result := ((newReader s.typeMode.isTruthy).init
          (taskOf s (some rules) source).parameters w).result
        (∀ problem, result = .error (.problem problem) → problem.kind = .source ∧
          source.problem? (w.files.find source.path).toOption = some problem) ∧
        (source.Answers w.files result ↔ ¬ source.IsObscured w.files) := by
  obtain ⟨copybooks, hcopybooks, heq⟩ := htyped.copybooks
  obtain ⟨directories, hdirectories, heq'⟩ := htyped.directories
  refine ⟨copybooks, directories, heq, heq', tasks_paths heq heq' _, fun source hsource w => ?_⟩
  have hnormal : source.path.IsNormal := by
    rcases List.mem_append.mp hsource with hmem | hmem
    · obtain ⟨path, hpath, rfl⟩ := List.mem_map.mp hmem
      exact hcopybooks path hpath
    · obtain ⟨path, hpath, rfl⟩ := List.mem_map.mp hmem
      exact hdirectories path hpath
  have hmode : s.typeMode.isTruthy = true → ∃ path, source = .copybook path := by
    intro htype
    have hnone := (Settings.complaints_nil hvalid).2.2 htype
    rw [heq'] at hnone
    have hempty : directories = [] := by simpa [Setting.paths, Setting.isTruthy] using hnone
    rw [hempty, List.map_nil, List.append_nil] at hsource
    obtain ⟨path, -, rfl⟩ := List.mem_map.mp hsource
    exact ⟨path, rfl⟩
  dsimp only
  rw [init_taskOf htyped hvalid hnormal hmode rules w]
  refine ⟨fun problem hproblem => ?_, Source.survey_answers_iff⟩
  have hwrong := Source.survey_problem hproblem
  exact ⟨Source.problem?_kind hwrong, hwrong⟩

theorem paths_injective : Function.Injective Setting.paths := fun _ _ h =>
  List.map_injective_iff.mpr (fun _ _ h => Setting.Source.path.inj h) (Setting.several.inj h)

/-- A name with which no copybook can be there. -/
def overlongName : Text := List.replicate 300 'a'

def overlongSettings : Settings where
  copybooks := .paths [.ofText "C", .ofText overlongName]
  namespacePrefix := .value " P "
  case := .value "Upper"

def bareFiles : Files.Tree := ⟨[], []⟩

def bareWorld : World := ⟨bareFiles, [], none, false⟩

def overlongAnswer (source : Source) : Except Failure Unit :=
  ((newReader overlongSettings.typeMode.isTruthy).init
    (taskOf overlongSettings (some (.empty .null)) source).parameters bareWorld).result

theorem init_answers_iff_overlong :
    overlongSettings.IsTyped ∧ overlongSettings.complaints bareFiles = .ok [] ∧
    Source.Answers bareFiles (.copybook (.ofText "C")) (overlongAnswer (.copybook (.ofText "C"))) ∧
    ¬ Source.Answers bareFiles (.copybook (.ofText overlongName))
      (overlongAnswer (.copybook (.ofText overlongName))) := by
  have hdefault := Settings.isTyped_default
  have htyped : overlongSettings.IsTyped :=
    { hdefault with
      copybooks := ⟨[.ofText "C", .ofText overlongName], by simp [Path.isNormal_ofText], rfl⟩
      namespacePrefix := ⟨_, rfl⟩
      case := ⟨_, rfl⟩ }
  have hvalid : overlongSettings.complaints bareFiles = .ok [] := by decide +kernel
  obtain ⟨copybooks, directories, hcopybooks, -, -, hall⟩ :=
    init_answers_iff htyped hvalid (.empty .null)
  obtain rfl := paths_injective hcopybooks
  obtain ⟨-, habsent⟩ := hall (.copybook (.ofText "C")) (by simp) bareWorld
  obtain ⟨-, hoverlong⟩ := hall (.copybook (.ofText overlongName)) (by simp) bareWorld
  refine ⟨htyped, hvalid, habsent.mpr ?_, fun h => hoverlong.mp h (.path ?_)⟩
  · rintro (h | -)
    exact absurd h (by decide +kernel)
  · decide +kernel

end Run

end Copybook
