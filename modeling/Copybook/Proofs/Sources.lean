import Copybook.Proofs.Growth
import Copybook.Proofs.Writability
import Copybook.Run

/-!
Runs over several sources. The readers of the sources do not get in each other's way, so that a run
comes to what the runs over its single sources come to, one behind the other. -/
namespace Copybook

namespace Reader

variable {r q : Reader} {v w : World} {start : Reader} {config : ReaderConfig} {members : Members}

/-- Reading on until there is nothing more, or until a problem. -/
inductive Reads : Reader → World → List DataObject → Option Problem → Reader → World → Prop
  | ended {r q : Reader} {v w : World} : r.read w = ⟨q, v, .ok none⟩ → Reads r w [] none q v
  | failed {r q : Reader} {v w : World} {problem : Problem} :
      r.read w = ⟨q, v, .error (.problem problem)⟩ → Reads r w [] (some problem) q v
  | more {r q q' : Reader} {v v' w : World} {object : DataObject} {objects : List DataObject}
      {problem : Option Problem} : r.read w = ⟨q, v, .ok (some object)⟩ →
      Reads q v objects problem q' v' → Reads r w (object :: objects) problem q' v'

theorem Serves.readOver_reads (h : Serves start config members r) (w : World)
    (hproblem : ∀ fault, (r.readOver w members.left).failure ≠ some (.fault fault)) :
    ∃ problem, (r.readOver w members.left).failure = problem.map .problem ∧
      Reads r w (r.readOver w members.left).objects problem (r.readOver w members.left).reader
        (r.readOver w members.left).world := by
  generalize hleft : members.left = paths at hproblem ⊢
  induction paths generalizing r w members with
  | nil =>
    have hnone : members.next.1 = none := by
      cases hnext : members.next.1 with
      | none => rfl
      | some path => simp [Members.left_of_some (Prod.ext hnext rfl)] at hleft
    have hread := h.read_last hnone w
    refine ⟨none, ?_⟩
    simp only [readOver, hread]
    exact ⟨rfl, .ended hread⟩
  | cons path rest ih =>
    have hnext : members.next = (some path, members.next.2) ∧ members.next.2.left = rest := by
      cases hpath : members.next.1 with
      | none => simp [Members.left_of_none hpath] at hleft
      | some place =>
        have hplace : members.next = (some place, members.next.2) := Prod.ext hpath rfl
        rw [Members.left_of_some hplace] at hleft
        obtain ⟨rfl, hrest⟩ := List.cons.inj hleft
        exact ⟨hplace, hrest⟩
    obtain ⟨hmember, hrest⟩ := hnext
    have hspec := h.read_spec hmember w
    unfold readOver at hproblem ⊢
    generalize hread : r.read w = outcome at hspec hproblem ⊢
    obtain ⟨q, v, result⟩ := outcome
    cases hproduce : start.produce w config path with
    | ok object =>
      rw [hproduce] at hspec
      obtain ⟨rfl, hserves⟩ : result = .ok (some object) ∧ _ := hspec
      obtain ⟨problem, hfailure, hreads⟩ := ih hserves v hrest hproblem
      exact ⟨problem, hfailure, .more hread hreads⟩
    | error failure =>
      rw [hproduce] at hspec
      cases failure with
      | problem problem =>
        obtain ⟨rfl, -⟩ : result = .error (.problem problem) ∧ _ := hspec
        exact ⟨some problem, rfl, .failed hread⟩
      | fault fault =>
        obtain rfl : result = .error (.fault fault) := hspec
        exact absurd rfl (hproblem fault)

theorem readAll_reads {p : Parameters} (h : (r.init p w).result = .ok ())
    (hproblem : ∀ fault, ((r.init p w).reader.readAll (r.init p w).world).failure ≠
      some (.fault fault)) :
    let rest := (r.init p w).reader.readAll (r.init p w).world
    ∃ problem, rest.failure = problem.map .problem ∧
      Reads (r.init p w).reader (r.init p w).world rest.objects problem rest.reader rest.world := by
  intro rest
  obtain ⟨config, -, hserves⟩ := init_spec h
  have hupcoming : (r.init p w).reader.upcoming = (Members.ofConfig w.files config).left := by
    rw [upcoming, hserves.members]
    rfl
  have hrest : rest = (r.init p w).reader.readOver (r.init p w).world
      (Members.ofConfig w.files config).left := by
    rw [← hupcoming]
    rfl
  rw [hrest]
  refine hserves.readOver_reads _ ?_
  rw [← hrest]
  exact hproblem

end Reader

namespace Run

def typesOf (typeMode : Bool) (rows : List TypeRow) : Option TypeTable :=
  if typeMode then some ⟨TypeTable.usualColumns, rows⟩ else none

def Report.rows (r : Report) : List TypeRow :=
  match r.types with
  | some table => table.rows
  | none => []

def Report.concat (typeMode : Bool) (reports : List Report) : Report where
  succeeds := reports.all (·.succeeds)
  objects := reports.flatMap (·.objects)
  types := typesOf typeMode (reports.flatMap Report.rows)
  errors := reports.flatMap (·.errors)
  status := reports.flatMap (·.status)

def Yield.report (typeMode : Bool) (source : Text) (y : Yield) : Report where
  succeeds := y.failure.isNone
  objects := y.objects
  types := typesOf typeMode y.rows
  errors := match y.failure with
    | some (.problem problem) => [failureError source problem]
    | _ => []
  status := y.status

def Task.left (t : Task) (y : Yield) : World :=
  match y.failure with
  | some (.problem problem) => y.world.note [failureRecord t.source problem]
  | _ => y.world

def yields (typeMode : Bool) : List Task → World → List Yield
  | [], _ => []
  | t :: rest, w =>
    let y := t.perform typeMode w
    y :: yields typeMode rest (t.left y)

variable {typeMode : Bool} {t : Task} {ts : List Task} {v w : World} {report : Report}
  {reports : List Report}

/-- What a new reader comes to over a source: its parameters are refused, or it reads objects until
there are no more, or until there is a problem. A problem makes one error. -/
inductive Told (typeMode : Bool) (t : Task) (w : World) : Report → Prop
  | refused {q : Reader} {v : World} {problem : Problem} :
      (newReader typeMode).init t.parameters w = ⟨q, v, .error (.problem problem)⟩ →
      Told typeMode t w
        ⟨false, [], typesOf typeMode [], [failureError t.source problem], q.status.lines⟩
  | failed {q q' : Reader} {v v' : World} {objects : List DataObject} {problem : Problem} :
      (newReader typeMode).init t.parameters w = ⟨q, v, .ok ()⟩ →
      Reader.Reads q v objects (some problem) q' v' →
      Told typeMode t w
        ⟨false, objects, typesOf typeMode [], [failureError t.source problem], q'.status.lines⟩
  | complete {q q' : Reader} {v v' : World} {objects : List DataObject} :
      (newReader typeMode).init t.parameters w = ⟨q, v, .ok ()⟩ →
      Reader.Reads q v objects none q' v' →
      Told typeMode t w
        ⟨true, objects, typesOf typeMode (rowsOf q' none), [], q'.status.lines⟩

theorem told_perform (t : Task) (typeMode : Bool) (w : World)
    (hproblem : ∀ fault, (t.perform typeMode w).failure ≠ some (.fault fault)) :
    Told typeMode t w ((t.perform typeMode w).report typeMode t.source) := by
  have hreads := Reader.readAll_reads (r := newReader typeMode) (p := t.parameters) (w := w)
  unfold Task.perform at hproblem ⊢
  generalize hinit : (newReader typeMode).init t.parameters w = outcome at hreads hproblem ⊢
  obtain ⟨q, v, result⟩ := outcome
  cases result with
  | error failure =>
    cases failure with
    | fault fault => exact absurd rfl (hproblem fault)
    | problem problem => exact .refused hinit
  | ok _ =>
    dsimp only at hreads hproblem ⊢
    obtain ⟨problem, hfailure, hreads⟩ := hreads rfl hproblem
    have hclosed := Reader.release_reader (q.readAll v).reader (q.readAll v).world
    have hrows : rowsOf ((q.readAll v).reader.close (q.readAll v).world).1
        (q.readAll v).failure = rowsOf (q.readAll v).reader (q.readAll v).failure := by
      rw [Reader.close, hclosed]
      rfl
    have hstatus : ((q.readAll v).reader.close (q.readAll v).world).1.status =
        (q.readAll v).reader.status := by rw [Reader.close, hclosed]
    rw [hrows, hstatus]
    cases problem with
    | none =>
      simp only [hfailure, Yield.report, Option.map_none, Option.isNone_none]
      exact .complete hinit hreads
    | some problem =>
      simp only [hfailure, Yield.report, Option.map_some, Option.isNone_some]
      exact .failed hinit hreads

theorem Told.succeeds_iff (h : Told typeMode t w report) :
    report.succeeds = true ↔ report.errors = [] := by
  cases h <;> simp

theorem performAll_cons (t : Task) (rest : List Task)
    (hproblem : ∀ fault, (t.perform typeMode w).failure ≠ some (.fault fault)) :
    let y := t.perform typeMode w
    let later := performAll typeMode rest (t.left y)
    performAll typeMode (t :: rest) w = { later with
      succeeds := y.failure.isNone && later.succeeds
      objects := y.objects ++ later.objects
      rows := y.rows ++ later.rows
      errors := (y.report typeMode t.source).errors ++ later.errors
      status := y.status ++ later.status } := by
  rw [performAll]
  generalize t.perform typeMode w = y at hproblem ⊢
  obtain ⟨v, objects, rows, status, failure⟩ := y
  cases failure with
  | none => rfl
  | some failure =>
    cases failure with
    | problem problem => rfl
    | fault fault => exact absurd rfl (hproblem fault)

/-- Tasks that are carried out one after the other, with what is told of each one. -/
inductive Chain (typeMode : Bool) : List Task → World → List Report → World → Prop
  | nil (w : World) : Chain typeMode [] w [] w
  | cons {t : Task} {rest : List Task} {v w : World} {reports : List Report}
      (hproblem : ∀ fault, (t.perform typeMode w).failure ≠ some (.fault fault))
      (hrest : Chain typeMode rest (t.left (t.perform typeMode w)) reports v) :
      Chain typeMode (t :: rest) w ((t.perform typeMode w).report typeMode t.source :: reports) v

theorem chain_yields (ts : List Task) (w : World)
    (h : ∀ y ∈ yields typeMode ts w, ∀ fault, y.failure ≠ some (.fault fault)) :
    ∃ reports v, Chain typeMode ts w reports v := by
  induction ts generalizing w with
  | nil => exact ⟨[], w, .nil w⟩
  | cons t rest ih =>
    obtain ⟨hproblem, hlater⟩ := List.forall_mem_cons.mp h
    obtain ⟨reports, v, hrest⟩ := ih _ hlater
    exact ⟨_, v, .cons hproblem hrest⟩

theorem Yield.report_rows (typeMode : Bool) (source : Text) (y : Yield) (h : typeMode = true) :
    (y.report typeMode source).rows = y.rows := by
  simp [Report.rows, Yield.report, typesOf, h]

theorem Chain.performAll_eq (h : Chain typeMode ts w reports v) :
    (performAll typeMode ts w).world = v ∧ (performAll typeMode ts w).fault = none ∧
      (performAll typeMode ts w).objects = reports.flatMap (·.objects) ∧
      (performAll typeMode ts w).report typeMode = .concat typeMode reports := by
  induction h with
  | nil w => exact ⟨rfl, rfl, rfl, rfl⟩
  | @cons t rest v w reports hproblem _ ih =>
    obtain ⟨hworld, hfault, hobjects, hreport⟩ := ih
    rw [performAll_cons t rest hproblem]
    refine ⟨hworld, hfault, by simp [hobjects, Yield.report], ?_⟩
    obtain ⟨hsucceeds, -, htypes, herrors, hstatus⟩ := Report.mk.inj hreport
    have hrows : typesOf typeMode ((t.perform typeMode w).rows ++ (performAll typeMode rest
        (t.left (t.perform typeMode w))).rows) = typesOf typeMode
          (((t.perform typeMode w).report typeMode t.source).rows ++
            reports.flatMap Report.rows) := by
      cases typeMode with
      | false => rfl
      | true =>
        have hlater := congrArg TypeTable.rows (Option.some.inj htypes)
        rw [Yield.report_rows true t.source _ rfl]
        exact congrArg (fun rows => typesOf true (_ ++ rows)) hlater
    simp only [Progress.report, Report.concat, List.flatMap_cons, List.all_cons, hsucceeds,
      hobjects, herrors, hstatus, Report.mk.injEq, true_and]
    exact ⟨rfl, rfl, hrows, rfl⟩

end Run
namespace Setting

def sources : Setting → Except Fault (List Source)
  | .several sources => .ok sources
  | s => (Untyped.elements s.data).map (·.map .value)

theorem elements_data (s : Setting) :
    Untyped.elements s.data = s.sources.map fun sources => sources.map Source.data := by
  cases s with
  | several sources => rfl
  | path p => simp [Setting.sources, data, Untyped.elements, Except.map, Source.data]
  | value v =>
    simp only [Setting.sources, data]
    cases Untyped.elements v <;> simp [Except.map, Function.comp_def, Source.data]

theorem listed_ok {s : Setting} {names : List Text} (h : s.listed = .ok names) :
    ∃ sources, s.sources = .ok sources ∧ (∀ source ∈ sources, source.data.isWritable = true) ∧
      names = sources.map fun source => source.data.shown := by
  rw [listed, elements_data] at h
  cases hsources : s.sources with
  | error fault => simp [hsources, Except.map] at h
  | ok sources =>
    rw [hsources] at h
    dsimp only [Except.map] at h
    split at h
    · rename_i hwritable
      rw [Json.Value.isWritable_list_iff, List.forall_mem_map] at hwritable
      obtain rfl := Except.ok.inj h
      exact ⟨sources, rfl, hwritable, List.map_map⟩
    · cases h

theorem listed_single {source : Source} (h : source.data.isWritable = true) :
    (several [source]).listed = .ok [source.data.shown] := by
  simp [listed, data, Untyped.elements, Json.Value.isWritable_list_iff, h]

theorem isTruthy_of_mem_sources {s : Setting} {sources : List Source} {source : Source}
    (h : s.sources = .ok sources) (hmem : source ∈ sources) : s.isTruthy = true := by
  cases s with
  | several all =>
    obtain rfl := Except.ok.inj h
    cases all with
    | nil => cases hmem
    | cons first rest => rfl
  | path p => rfl
  | value v =>
    cases v <;> simp only [Setting.sources, data, Untyped.elements, Except.map, Except.ok.injEq,
      reduceCtorEq] at h
    all_goals
      subst h
      simp only [List.map_map, List.mem_map] at hmem
      obtain ⟨x, hx, -⟩ := hmem
      simp [isTruthy, Json.Value.isTruthy, List.ne_nil_of_mem hx]

end Setting

namespace Settings

def forCopybook (s : Settings) (source : Setting.Source) : Settings :=
  { s with copybooks := .several [source], directories := .several [] }

def forDirectory (s : Settings) (source : Setting.Source) : Settings :=
  { s with copybooks := .several [], directories := .several [source] }

/-- The settings of the runs over single sources, copybooks before directories. -/
def singles (s : Settings) : Except Fault (List Settings) := do
  let copybooks ← s.copybooks.sources
  let directories ← s.directories.sources
  return copybooks.map s.forCopybook ++ directories.map s.forDirectory

variable {s single : Settings} {all : List Settings} {files t : Files.Tree}

theorem tasks_forCopybook (rules : Option Rule.Store) {source : Setting.Source}
    (h : source.data.isWritable = true) :
    Run.tasks (s.forCopybook source) rules =
      .ok [Run.copybookTask s rules source.data.shown] := by
  rw [Run.tasks, forCopybook, Setting.listed_single h]
  rfl

theorem tasks_forDirectory (rules : Option Rule.Store) {source : Setting.Source}
    (h : source.data.isWritable = true) :
    Run.tasks (s.forDirectory source) rules =
      .ok [Run.directoryTask s rules source.data.shown] := by
  rw [Run.tasks, forDirectory, Setting.listed_single h]
  rfl

theorem singles_tasks {rules : Option Rule.Store} {ts : List Run.Task}
    (h : Run.tasks s rules = .ok ts) : ∃ all, s.singles = .ok all ∧
      List.Forall₂ (fun single t => Run.tasks single rules = .ok [t]) all ts := by
  obtain ⟨names, hnames, h⟩ := bind_eq_ok_iff.mp h
  obtain ⟨others, hothers, h⟩ := bind_eq_ok_iff.mp h
  obtain ⟨copybooks, hcopybooks, hwritable, rfl⟩ := Setting.listed_ok hnames
  obtain ⟨directories, hdirectories, hwritable', rfl⟩ := Setting.listed_ok hothers
  obtain rfl := Except.ok.inj h
  refine ⟨copybooks.map s.forCopybook ++ directories.map s.forDirectory, ?_, ?_⟩
  · simp [singles, hcopybooks, hdirectories, bind, Except.bind, pure, Except.pure]
  · refine List.rel_append ?_ ?_ <;>
      simp only [List.map_map, List.forall₂_map_left_iff, List.forall₂_map_right_iff,
        List.forall₂_same]
    · exact fun source hsource => tasks_forCopybook rules (hwritable source hsource)
    · exact fun source hsource => tasks_forDirectory rules (hwritable' source hsource)

theorem eq_of_mem_singles (h : s.singles = .ok all) (hmem : single ∈ all) :
    (∃ source, single = s.forCopybook source) ∨
      ∃ source, single = s.forDirectory source ∧ s.directories.isTruthy = true := by
  obtain ⟨copybooks, -, h⟩ := bind_eq_ok_iff.mp h
  obtain ⟨directories, hdirectories, h⟩ := bind_eq_ok_iff.mp h
  obtain rfl := Except.ok.inj h
  rcases List.mem_append.mp hmem with hmem | hmem
  · obtain ⟨source, -, rfl⟩ := List.mem_map.mp hmem
    exact .inl ⟨source, rfl⟩
  · obtain ⟨source, hsource, rfl⟩ := List.mem_map.mp hmem
    exact .inr ⟨source, rfl, Setting.isTruthy_of_mem_sources hdirectories hsource⟩

theorem complaints_eq_nil (hrules : s.rulesComplaint files = .ok [])
    (hspace : s.prefixComplaint = .ok []) (hcase : s.caseComplaint = .ok [])
    (hlevel : s.levelComplaint = .ok []) (hsource : s.sourceComplaint = [])
    (hmode : s.modeComplaint = []) : s.complaints files = .ok [] := by
  simp [complaints, hrules, hspace, hcase, hlevel, hsource, hmode, bind, Except.bind, pure,
    Except.pure]

theorem complaints_single (hvalid : s.complaints files = .ok []) (h : s.singles = .ok all)
    (hmem : single ∈ all) (hgrown : Files.Tree.Grown files t) : single.complaints t = .ok [] := by
  obtain ⟨onRules, hrules, hvalid⟩ := bind_eq_ok_iff.mp hvalid
  obtain ⟨onPrefix, hspace, hvalid⟩ := bind_eq_ok_iff.mp hvalid
  obtain ⟨onCase, hcase, hvalid⟩ := bind_eq_ok_iff.mp hvalid
  obtain ⟨onLevel, hlevel, hvalid⟩ := bind_eq_ok_iff.mp hvalid
  simp only [pure, Except.pure, Except.ok.injEq, List.append_eq_nil_iff] at hvalid
  obtain ⟨⟨⟨⟨⟨-, hmode⟩, rfl⟩, rfl⟩, rfl⟩, rfl⟩ := hvalid
  have hrules' : s.rulesComplaint t = .ok [] := by
    rw [← hrules]
    unfold rulesComplaint
    simp only [hgrown.hasFile]
  rcases eq_of_mem_singles h hmem with ⟨source, rfl⟩ | ⟨source, rfl, htruthy⟩
  · exact complaints_eq_nil hrules' hspace hcase hlevel rfl (by simp [modeComplaint, forCopybook,
      Setting.isTruthy, demand])
  · refine complaints_eq_nil hrules' hspace hcase hlevel rfl ?_
    rw [modeComplaint, htruthy] at hmode
    exact hmode

/-- What a single run has in common with the whole run. -/
structure IsPart (s single : Settings) (files : Files.Tree) : Prop where
  valid : ∀ t, Files.Tree.Grown files t → single.complaints t = .ok []
  rules : ∀ depth given t, Run.rulesFor depth single given t = Run.rulesFor depth s given t
  typeMode : single.typeMode = s.typeMode

theorem isPart_of_mem_singles (hvalid : s.complaints files = .ok []) (h : s.singles = .ok all)
    (hmem : single ∈ all) : s.IsPart single files := by
  refine ⟨fun t => complaints_single hvalid h hmem, ?_, ?_⟩ <;>
    rcases eq_of_mem_singles h hmem with ⟨source, rfl⟩ | ⟨source, rfl, -⟩
  · exact fun _ _ _ => rfl
  · exact fun _ _ _ => rfl
  · rfl
  · rfl

end Settings

namespace Run

variable {typeMode : Bool} {t : Task} {ts : List Task} {u v w : World} {report : Report}
  {reports : List Report} {s : Settings} {given : Option Rule.Store} {rules : Rule.Store}
  {files : Files.Tree} {records : List Log.Record} {depth : Json.Depth}

theorem perform_chain (hvalid : s.complaints w.files = .ok [])
    (hrules : (rulesFor depth s given w.files).result = .ok rules)
    (htasks : tasks s (some rules) = .ok ts)
    (hchain : Chain s.typeMode.isTruthy ts (w.note (rulesFor depth s given w.files).notes) reports v) :
    perform depth s given w = ⟨v, some rules, reports.flatMap (·.objects),
      .ok (.concat s.typeMode.isTruthy reports)⟩ := by
  obtain ⟨hworld, hfault, hobjects, hreport⟩ := hchain.performAll_eq
  simp only [perform, hvalid, hrules, harvest, htasks, hworld, hfault, hobjects, hreport]

theorem perform_ok (h : (perform depth s given w).result = .ok report) :
    (∃ errors, report = .refused errors) ∨ ∃ rules ts, s.complaints w.files = .ok [] ∧
      (rulesFor depth s given w.files).result = .ok rules ∧ tasks s (some rules) = .ok ts ∧
      let progress := performAll s.typeMode.isTruthy ts (w.note (rulesFor depth s given w.files).notes)
      progress.fault = none ∧ report = progress.report s.typeMode.isTruthy := by
  unfold perform at h
  cases hvalid : s.complaints w.files with
  | error fault => simp [hvalid] at h
  | ok complaints =>
    cases complaints with
    | cons complaint more =>
      simp only [hvalid, Except.ok.injEq] at h
      exact .inl ⟨_, h.symm⟩
    | nil =>
      cases hrules : (rulesFor depth s given w.files).result with
      | error failure =>
        cases failure with
        | fault fault => simp [hvalid, hrules] at h
        | problem problem =>
          simp only [hvalid, hrules, Except.ok.injEq] at h
          exact .inl ⟨_, h.symm⟩
      | ok rules =>
        simp only [hvalid, hrules, harvest] at h
        cases htasks : tasks s (some rules) with
        | error fault => simp [htasks] at h
        | ok ts =>
          rw [htasks] at h
          dsimp only at h
          split at h
          · cases h
          · exact .inr ⟨rules, ts, rfl, rfl, htasks, ‹_›, (Except.ok.inj h).symm⟩

theorem concat_report (typeMode : Bool) (source : Text) (y : Yield) :
    Report.concat typeMode [y.report typeMode source] = y.report typeMode source := by
  cases typeMode <;> simp [Report.concat, Yield.report, Report.rows, typesOf]

theorem perform_single (hvalid : s.complaints w.files = .ok [])
    (hrules : rulesFor depth s given w.files = ⟨records, .ok rules⟩)
    (htasks : tasks s (some rules) = .ok [t])
    (hproblem : ∀ fault,
      (t.perform s.typeMode.isTruthy (w.note records)).failure ≠ some (.fault fault)) :
    let y := t.perform s.typeMode.isTruthy (w.note records)
    perform depth s given w =
      ⟨t.left y, some rules, y.objects, .ok (y.report s.typeMode.isTruthy t.source)⟩ := by
  have hchain : Chain s.typeMode.isTruthy [t] (w.note (rulesFor depth s given w.files).notes)
      [(t.perform s.typeMode.isTruthy (w.note records)).report s.typeMode.isTruthy t.source]
      (t.left (t.perform s.typeMode.isTruthy (w.note records))) := by
    rw [hrules]
    exact .cons hproblem (.nil _)
  have hrun := perform_chain hvalid (by rw [hrules]) htasks hchain
  rw [concat_report] at hrun
  simpa [Yield.report] using hrun

/-- Runs over single sources, each of which begins where the one before it has ended. -/
inductive InTurn (depth : Json.Depth) (rules : Rule.Store) :
    List Settings → World → List Report → World → Prop
  | nil (w : World) : InTurn depth rules [] w [] w
  | cons {s : Settings} {rest : List Settings} {t : Task} {v w : World} {report : Report}
      {reports : List Report} (hrun : (perform depth s (some rules) w).result = .ok report)
      (hread : (perform depth s (some rules) w).read = report.objects)
      (htask : tasks s (some rules) = .ok [t]) (htold : Told s.typeMode.isTruthy t w report)
      (hrest : InTurn depth rules rest (perform depth s (some rules) w).world reports v) :
      InTurn depth rules (s :: rest) w (report :: reports) v

theorem Task.left_kept {P : World → Prop} (hP : World.Kept P) (t : Task) (typeMode : Bool)
    (hw : P w) : P (t.left (t.perform typeMode w)) := by
  have hsame := t.perform_matches (World.matches_agrees_and hP) typeMode (v := w) ⟨⟨rfl, rfl⟩, hw⟩
    fun _ _ path _ v w h => World.shares_agrees path v w h.1
  unfold Task.left
  split
  · exact hP.note hsame.world.2 _
  · exact hsame.world.2

theorem Chain.inTurn (h : Chain s.typeMode.isTruthy ts w reports v)
    (hgrown : Files.Tree.Grown files w.files) {all : List Settings}
    (hall : List.Forall₂ (fun single t =>
      s.IsPart single files ∧ tasks single (some rules) = .ok [t]) all ts) :
    InTurn depth rules all w reports v := by
  induction h generalizing all with
  | nil w =>
    cases hall
    exact .nil w
  | @cons t rest v w reports hproblem hchain ih =>
    obtain ⟨single, later, ⟨hpart, htask⟩, hlater, rfl⟩ := List.forall₂_cons_right_iff.mp hall
    have hgiven : rulesFor depth single (some rules) w.files = ⟨[], .ok rules⟩ := rfl
    have hrun := perform_single (hpart.valid _ hgrown) hgiven htask
      (by rwa [World.note_nil, hpart.typeMode])
    simp only [World.note_nil, hpart.typeMode] at hrun
    refine .cons (by rw [hrun]) (by rw [hrun]; rfl) htask ?_ ?_
    · rw [hpart.typeMode]
      exact told_perform t _ w hproblem
    · rw [hrun]
      exact ih (t.left_kept (World.kept_grown files) _ hgrown) hlater

def Task.copybooks (t : Task) (files : Files.Tree) : List Path :=
  match ReaderConfig.ofParameters files t.parameters with
  | .ok config => (Members.ofConfig files config).all
  | .error _ => []

theorem mem_copybooks_of_grown {files' : Files.Tree} (hgrown : Files.Tree.Grown files files')
    {config : ReaderConfig} (hconfig : ReaderConfig.ofParameters files' t.parameters = .ok config)
    {path : Path} (hpath : path ∈ (Members.ofConfig files' config).all) :
    path ∈ t.copybooks files := by
  rw [ReaderConfig.ofParameters_grown hgrown] at hconfig
  rw [Members.ofConfig_grown hgrown] at hpath
  rw [Task.copybooks, hconfig]
  exact hpath

theorem Yield.Same.report_eq {R : World → World → Prop} {y y' : Yield} (h : Yield.Same R y y')
    (typeMode : Bool) (source : Text) : y.report typeMode source = y'.report typeMode source := by
  unfold Yield.report
  rw [h.objects, h.rows, h.status, h.failure]

/-- What is told of each task in a chain is told of it in all surroundings that show its
copybooks. -/
theorem Chain.forall_shows (h : Chain typeMode ts w reports v)
    (hshows : ∀ t ∈ ts, w.Shows files (t.copybooks files)) :
    List.Forall₂ (fun t report => ∀ u : World, u.Shows files (t.copybooks files) →
      (∀ fault, (t.perform typeMode u).failure ≠ some (.fault fault)) ∧
        (t.perform typeMode u).report typeMode t.source = report) ts reports := by
  induction h with
  | nil w => exact .nil
  | @cons t rest v w reports hproblem hchain ih =>
    obtain ⟨hfirst, hlater⟩ := List.forall_mem_cons.mp hshows
    refine .cons (fun u hu => ?_) (ih fun t' ht' => ?_)
    · have hsame := t.perform_matches (World.matches_shows files (t.copybooks files)) typeMode
        (v := u) (w := w) ⟨hu, hfirst⟩ fun config hconfig path hpath =>
          World.shares_shows (mem_copybooks_of_grown hfirst.grown hconfig hpath)
      exact ⟨fun fault => hsame.failure ▸ hproblem fault, hsame.report_eq typeMode t.source⟩
    · exact t.left_kept (World.kept_shows files (t'.copybooks files)) typeMode (hlater t' ht')

theorem forall₂_trans {α β γ : Type} {P : α → β → Prop} {Q : β → γ → Prop} {R : α → γ → Prop}
    (hR : ∀ x y z, P x y → Q y z → R x z) {xs : List α} {ys : List β} {zs : List γ}
    (h : List.Forall₂ P xs ys) (h' : List.Forall₂ Q ys zs) : List.Forall₂ R xs zs := by
  induction h generalizing zs with
  | nil =>
    cases h'
    exact .nil
  | cons hxy _ ih =>
    obtain ⟨z, rest, hyz, hrest, rfl⟩ := List.forall₂_cons_left_iff.mp h'
    exact .cons (hR _ _ _ hxy hyz) (ih hrest)

theorem InTurn.succeeds_iff {all : List Settings} (h : InTurn depth rules all w reports v) :
    (Report.concat typeMode reports).succeeds = true ↔
      (Report.concat typeMode reports).errors = [] := by
  induction h with
  | nil => simp [Report.concat]
  | cons _ _ _ htold _ ih =>
    have hfirst := htold.succeeds_iff
    simp only [Report.concat, List.all_cons, List.flatMap_cons, Bool.and_eq_true,
      List.append_eq_nil_iff] at ih ⊢
    rw [hfirst, ih]

/-- Surroundings whose sink is none of the copybooks that a run reads. -/
def IsOutside (s : Settings) (rules : Rule.Store) (w : World) : Prop :=
  ∀ ts, tasks s (some rules) = .ok ts → ∀ t ∈ ts, ∀ path ∈ t.copybooks w.files, w.IsApart path

/-- A run whose readers have no other failures than problems reports what single runs over its
sources report, one behind the other. A source that fails makes one error, and what has been read of
it is kept. The single runs may follow each other, or, if no copybook is the sink, stand for
themselves. -/
theorem perform_concat (hvalid : s.complaints w.files = .ok [])
    (hrules : (rulesFor depth s given w.files).result = .ok rules)
    (htasks : tasks s (some rules) = .ok ts)
    (hproblems : ∀ y ∈ yields s.typeMode.isTruthy ts (w.note (rulesFor depth s given w.files).notes),
      ∀ fault, y.failure ≠ some (.fault fault)) :
    ∃ singles reports report, s.singles = .ok singles ∧
      report = .concat s.typeMode.isTruthy reports ∧
      (perform depth s given w).result = .ok report ∧ (perform depth s given w).read = report.objects ∧
      InTurn depth rules singles (w.note (rulesFor depth s given w.files).notes) reports
        (perform depth s given w).world ∧
      (w.IsReliable → IsOutside s rules w → List.Forall₂ (fun single report =>
        ∀ u : World, u.files = w.files → u.IsReliable → IsOutside single rules u →
          (perform depth single given u).result = .ok report ∧
            (perform depth single given u).read = report.objects) singles reports) ∧
      (report.succeeds = true ↔ report.errors = []) := by
  obtain ⟨reports, v, hchain⟩ := chain_yields ts _ hproblems
  obtain ⟨singles, hsingles, hall⟩ := Settings.singles_tasks htasks
  have hparts : List.Forall₂ (fun single t =>
      s.IsPart single w.files ∧ tasks single (some rules) = .ok [t]) singles ts :=
    (List.forall₂_and_left _ _).mpr
      ⟨fun single hmem => Settings.isPart_of_mem_singles hvalid hsingles hmem, hall⟩
  have hrun := perform_chain hvalid hrules htasks hchain
  have hturn : InTurn depth rules singles _ reports v := hchain.inTurn .refl hparts
  refine ⟨singles, reports, _, hsingles, rfl, by rw [hrun], by rw [hrun]; rfl,
    by rw [hrun]; exact hturn, fun hreliable houtside => ?_, hturn.succeeds_iff⟩
  have hshows : ∀ t ∈ ts, (w.note (rulesFor depth s given w.files).notes).Shows w.files
      (t.copybooks w.files) := fun t ht =>
    ⟨hreliable, .refl, fun path hpath => ⟨hreliable, houtside ts htasks t ht path hpath, rfl⟩⟩
  refine forall₂_trans ?_ hparts (hchain.forall_shows hshows)
  rintro single t report ⟨hpart, htask⟩ htold u hfiles hu hapart
  have hsingle : rulesFor depth single given u.files =
      ⟨(rulesFor depth s given w.files).notes, .ok rules⟩ := by
    rw [hpart.rules, hfiles, ← hrules]
  obtain ⟨hproblem, hreport⟩ := htold (u.note (rulesFor depth s given w.files).notes)
    ⟨hu, by rw [World.note, hfiles]; exact .refl, fun path hpath =>
      ⟨hu, hapart [t] htask t List.mem_cons_self path (by rwa [hfiles]), by
        rw [World.note, hfiles]⟩⟩
  have hrun := perform_single (hpart.valid _ (by rw [hfiles]; exact .refl)) hsingle htask
    (by rwa [hpart.typeMode])
  rw [hpart.typeMode] at hrun
  rw [hrun, ← hreport]
  exact ⟨rfl, rfl⟩

/-- A copybook that is there, one that is not, and a directory whose second member fails. -/
def sampleSettings : Settings where
  copybooks := .paths [Path.ofText "C", Path.ofText "N"]
  directories := .paths [Path.ofText "D"]
  namespacePrefix := .value "P"
  encoding := .value "ascii"

def sampleWorld : World :=
  { Reader.pairWorld with
    files := ⟨[], (["C"], .file (Encoding.encodeUtf8 "       05 C PIC X.")) ::
      Reader.pairWorld.files.nodes⟩ }

theorem perform_concat_sample :
    let depth : Json.Depth := ⟨3, by decide⟩
    let rules : Rule.Store := .empty .null
    let o := perform depth sampleSettings (some rules) sampleWorld
    sampleSettings.complaints sampleWorld.files = .ok [] ∧
      sampleWorld.IsReliable ∧ IsOutside sampleSettings rules sampleWorld ∧
      ∃ ts, tasks sampleSettings (some rules) = .ok ts ∧
      (∀ y ∈ yields false ts sampleWorld, ∀ fault, y.failure ≠ some (.fault fault)) ∧
      ∃ singles reports report, sampleSettings.singles = .ok singles ∧
        report = .concat false reports ∧ o.result = .ok report ∧ o.read = report.objects ∧
        InTurn depth rules singles sampleWorld reports o.world ∧
        List.Forall₂ (fun single report =>
          ∀ u : World, u.files = sampleWorld.files → u.IsReliable → IsOutside single rules u →
            (perform depth single (some rules) u).result = .ok report ∧
              (perform depth single (some rules) u).read = report.objects) singles reports ∧
        report.objects.map (·.name) = ["C", "A"] ∧ report.errors.length = 2 ∧
        report.succeeds = false := by
  intro depth rules o
  have hvalid : sampleSettings.complaints sampleWorld.files = .ok [] := by decide +kernel
  have houtside : IsOutside sampleSettings rules sampleWorld := by
    rintro ts - t - path - place ⟨⟩
  have hproblems : ∀ y ∈ yields false [copybookTask sampleSettings (some rules) "C",
      copybookTask sampleSettings (some rules) "N",
      directoryTask sampleSettings (some rules) "D"] sampleWorld,
      ∀ fault, y.failure ≠ some (.fault fault) := by
    have hall : ((yields false [copybookTask sampleSettings (some rules) "C",
        copybookTask sampleSettings (some rules) "N",
        directoryTask sampleSettings (some rules) "D"] sampleWorld).all fun y =>
          y.failure.all fun failure => !failure.isFault) = true := by decide +kernel
    intro y hy fault hfault
    simpa [hfault, Failure.isFault] using List.all_eq_true.mp hall y hy
  have hgiven : (rulesFor depth sampleSettings (some rules) sampleWorld.files).result = .ok rules := rfl
  have hsummary : (o.result.toOption.map fun report =>
      (report.objects.map (·.name), report.errors.length, report.succeeds)) =
      some ((["C", "A"] : List Text), 2, false) := by decide +kernel
  have htasks : tasks sampleSettings (some rules) = .ok [
      copybookTask sampleSettings (some rules) "C", copybookTask sampleSettings (some rules) "N",
      directoryTask sampleSettings (some rules) "D"] := rfl
  obtain ⟨singles, reports, report, hsingles, hreport, hresult, hread, hturn, halone, -⟩ :=
    perform_concat hvalid hgiven htasks hproblems
  have hresult' : o.result = .ok report := hresult
  rw [hresult'] at hsummary
  obtain ⟨hnames, herrors, hsucceeds⟩ : _ ∧ _ ∧ _ := by
    simpa only [Except.toOption, Option.map_some, Option.some.injEq, Prod.mk.injEq] using hsummary
  exact ⟨hvalid, trivial, houtside, _, htasks, hproblems, singles, reports, report, hsingles,
    hreport, hresult, hread, hturn, halone trivial houtside, hnames, herrors, hsucceeds⟩

end Run
end Copybook
