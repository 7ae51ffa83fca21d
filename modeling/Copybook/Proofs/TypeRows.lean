import Copybook.Proofs.Sources
import Copybook.Proofs.Text
import Copybook.Proofs.TypeMode

/-!
Type tables of runs. A run in type mode reports a row for each attribute of each object, in their
order. A source that fails leaves neither rows nor objects, wherever it fails. -/
namespace Copybook

namespace CaseMode

theorem small_of_isBlank {c : Char} (h : isBlank c = true) : Case.small c = [c] := by
  have hcodes : ∀ n ∈ Text.blankCodes, Case.small (Char.ofNat n) = [Char.ofNat n] := by
    decide +kernel
  have hblanks : ∀ c, isBlank c = true → Case.small c = [c] := Text.forall_blank hcodes
  exact hblanks c h

theorem mem_lowerAfter_of_isBlank {c : Char} (h : isBlank c = true) {before t : Text} (hc : c ∈ t) :
    c ∈ Case.lowerAfter before t := by
  induction t generalizing before with
  | nil => cases hc
  | cons d rest ih =>
    rw [Case.lowerAfter, List.mem_append]
    rcases List.mem_cons.mp hc with rfl | hrest
    · left
      have hsigma : c ≠ Case.capitalSigma := by
        rintro rfl
        exact absurd h (by decide)
      rw [if_neg hsigma, small_of_isBlank h]
      exact List.mem_singleton_self c
    · exact .inr (ih hrest)

theorem trim_of_ofWord? {word : Text} {mode : CaseMode} (h : ofWord? word.lower = some mode) :
    word.trim = word := by
  have hlower : mode.word = word.lower := by simpa using List.find?_some h
  have hsolid : ∀ c ∈ word, isBlank c = false := by
    intro c hc
    rw [Bool.eq_false_iff]
    intro hblank
    have hmem : c ∈ mode.word := by
      rw [hlower]
      exact mem_lowerAfter_of_isBlank hblank hc
    have hwords : ∀ mode : CaseMode, ∀ c ∈ mode.word, isBlank c = false := by
      intro mode
      cases mode <;> decide
    rw [hwords mode c hmem] at hblank
    cases hblank
  cases word with
  | nil => rfl
  | cons c rest =>
    have hlast := List.getLast_mem (List.cons_ne_nil c rest)
    exact Text.trim_eq_self ⟨c, rfl, hsolid c List.mem_cons_self⟩
      ⟨_, List.getLast?_eq_some_getLast (List.cons_ne_nil c rest), hsolid _ hlast⟩

end CaseMode

theorem ReaderConfig.copybook_of_scope {files : Files.Tree} {p : Parameters} {config : ReaderConfig}
    (hscope : checkScope p.scope = .ok .copybook) (h : ofParameters files p = .ok config) :
    ∃ path, config.source = .copybook path := by
  obtain ⟨scope, hchecked, hplace⟩ := bind_eq_ok_iff.mp (ofParameters_checks h).1
  obtain rfl := Except.ok.inj (hscope.symm.trans hchecked)
  obtain ⟨path, -, heq⟩ := bind_eq_ok_iff.mp hplace
  exact ⟨path, (Except.ok.inj heq).symm⟩

namespace Settings

variable {s : Settings} {files : Files.Tree} {mode : CaseMode}

def caseMode? (s : Settings) : Option CaseMode :=
  match s.case.text with
  | .ok word => CaseMode.ofWord? word.lower
  | .error _ => none

/-- The readers of a run understand its mode as the run does. -/
theorem checkCase_caseMode? (h : s.caseMode? = some mode) :
    ReaderConfig.checkCase (some s.case.data) = .ok mode := by
  unfold caseMode? at h
  split at h
  · rename_i word hword
    have hdata : s.case.data = .text word := by
      unfold Setting.text at hword
      split at hword
      · rename_i t hcase
        obtain rfl := Except.ok.inj hword
        rw [hcase]
        rfl
      · cases hword
    have htrim : ReaderConfig.wordOf (.text word) = .ok word.lower := by
      change Except.ok word.trim.lower = _
      rw [CaseMode.trim_of_ofWord? h]
    rw [hdata]
    simp only [ReaderConfig.checkCase, Parameters.given, htrim, Except.toOption, Option.bind_some, h]
  · cases h

theorem eq_nil_of_demand {holds : Bool} {complaint : Text} (h : demand holds complaint = []) :
    holds = true := by
  cases holds
  · cases h
  · rfl

theorem complaints_nil (hvalid : s.complaints files = .ok []) :
    (∃ space, s.namespacePrefix.text = .ok space ∧ space.trim ≠ []) ∧
      (∃ mode, s.caseMode? = some mode) ∧
      (s.typeMode.isTruthy = true → s.directories.isTruthy = false) := by
  obtain ⟨onRules, -, hvalid⟩ := bind_eq_ok_iff.mp hvalid
  obtain ⟨onPrefix, hspace, hvalid⟩ := bind_eq_ok_iff.mp hvalid
  obtain ⟨onCase, hcase, hvalid⟩ := bind_eq_ok_iff.mp hvalid
  obtain ⟨onLevel, -, hvalid⟩ := bind_eq_ok_iff.mp hvalid
  simp only [pure, Except.pure, Except.ok.injEq, List.append_eq_nil_iff] at hvalid
  obtain ⟨⟨⟨⟨⟨-, hmodes⟩, -⟩, rfl⟩, rfl⟩, -⟩ := hvalid
  refine ⟨?_, ?_, fun hmode => ?_⟩
  · obtain ⟨space, hword, hdemand⟩ := bind_eq_ok_iff.mp hspace
    exact ⟨space, hword, by simpa using eq_nil_of_demand (Except.ok.inj hdemand)⟩
  · obtain ⟨word, hword, hdemand⟩ := bind_eq_ok_iff.mp hcase
    have hsome := eq_nil_of_demand (Except.ok.inj hdemand)
    unfold caseMode?
    rw [hword]
    exact Option.isSome_iff_exists.mp hsome
  · simpa [hmode] using eq_nil_of_demand hmodes

theorem complaints_typed (hvalid : s.complaints files = .ok [])
    (hmode : s.typeMode.isTruthy = true) :
    (∃ mode, s.caseMode? = some mode) ∧ s.directories.isTruthy = false := by
  obtain ⟨-, hcase, hdirectories⟩ := complaints_nil hvalid
  exact ⟨hcase, hdirectories hmode⟩

end Settings

namespace Run

variable {s : Settings} {mode : CaseMode} {w : World} {t : Task}

/-- Rows that name the attributes of objects, one by one and in their order. -/
def Lists (mode : CaseMode) (rows : List TypeRow) (objects : List DataObject) : Prop :=
  rows.map (fun row => mode.convert (TypeTable.cell row "attribute")) =
    objects.flatMap fun object => object.attributes.map (·.name)

/-- What a source comes to in type mode: an object with its rows, or a failure with nothing. -/
inductive Settles (mode : CaseMode) (y : Yield) : Prop
  | failed {failure : Failure} : y.failure = some failure → y.objects = [] → y.rows = [] →
      Settles mode y
  | complete {object : DataObject} : y.failure = none → y.objects = [object] →
      Lists mode y.rows [object] → Settles mode y

theorem Settles.lists {y : Yield} (h : Settles mode y) : Lists mode y.rows y.objects := by
  cases h with
  | failed _ hobjects hrows => rw [hobjects, hrows]; rfl
  | complete _ hobjects hlists => rwa [hobjects]

theorem lists_flatMap {ys : List Yield} (h : ∀ y ∈ ys, Settles mode y) :
    Lists mode (ys.flatMap (·.rows)) (ys.flatMap (·.objects)) := by
  induction ys with
  | nil => rfl
  | cons y rest ih =>
    obtain ⟨hfirst, hlater⟩ := List.forall_mem_cons.mp h
    have hy := hfirst.lists
    have hrest := ih hlater
    unfold Lists at hy hrest ⊢
    rw [List.flatMap_cons, List.flatMap_cons, List.map_append, hy, hrest, List.flatMap_append]

open Reader in
theorem typed_lists {p : Parameters} {config : ReaderConfig} {path : Path} (object : DataObject)
    (hconfig : ReaderConfig.ofParameters w.files p = .ok config)
    (hsource : config.source = .copybook path)
    (hread : ((initTyped false p w).reader.read (initTyped false p w).world).result =
      .ok (some object)) :
    ∃ rows, ((initTyped false p w).reader.read (initTyped false p w).world).reader.types =
      some ⟨TypeTable.usualColumns, rows⟩ ∧ Lists config.caseMode rows [object] := by
  obtain ⟨records, hinit⟩ := initTyped_eq false hconfig hsource
  have hproduce : (typedReader config path).produce (w.note records) config path = .ok object := by
    have hresult := (serves_typedReader config path).read_result rfl (w.note records)
    rw [hinit] at hread
    rw [hread] at hresult
    cases hmember : (typedReader config path).produce (w.note records) config path with
    | error failure => simp [hmember, Except.map] at hresult
    | ok object' => simpa [hmember, Except.map, eq_comm] using hresult
  obtain ⟨nameSpace, files, opened, -, hfiles, hopen, hends, -⟩ := produce_ok hproduce
  rw [announced_suppressed rfl] at hfiles
  obtain rfl := Except.ok.inj hfiles
  have htaken : (harvestBy .types config.caseMode path opened).2 = none := hends
  obtain ⟨-, -, -, -, items, hrows, hnames, -⟩ := harvestBy_notesTypes .null htaken
  obtain ⟨-, ⟨typed, hlast, hholds⟩, htable⟩ := initTyped_read false hconfig hsource hopen htaken
  obtain rfl : typed = object := by
    rw [hread] at hlast
    exact (Option.some.inj (Except.ok.inj hlast)).symm
  rw [hrows, TypeTable.empty, TypeTable.foldl_add_typeRow, List.nil_append] at htable
  refine ⟨items.map Harvest.typeRow, ?_, ?_⟩
  · unfold typeTable at htable
    split at htable
    · rename_i table _ htypes
      rw [htypes, Except.ok.inj htable]
    · cases htable
  · simp only [Lists, List.flatMap_singleton, hholds.attributes, hnames, List.map_map]
    rfl

open Reader in
/-- Reading on in type mode: there is a failure and no object, or one object whose attributes have
been noted. -/
theorem readAll_typed {p : Parameters} {config : ReaderConfig} {path : Path}
    (hconfig : ReaderConfig.ofParameters w.files p = .ok config)
    (hsource : config.source = .copybook path) :
    let rest := (initTyped false p w).reader.readAll (initTyped false p w).world
    (∃ failure, rest.failure = some failure ∧ rest.objects = []) ∨
      ∃ object rows, rest.failure = none ∧ rest.objects = [object] ∧
        rest.reader.types = some ⟨TypeTable.usualColumns, rows⟩ ∧
        Lists config.caseMode rows [object] := by
  obtain ⟨records, hinit⟩ := initTyped_eq false hconfig hsource
  have hlists := fun object => typed_lists object hconfig hsource
  rw [hinit] at hlists ⊢
  have hserves := serves_typedReader config path
  have hupcoming : (typedReader config path).upcoming = [path] := rfl
  have hresult := hserves.read_result rfl (w.note records)
  have hnext : ∀ value, ((typedReader config path).read (w.note records)).result = .ok value →
      Serves (typedReader config path) config ⟨.copybook, [path], 1⟩
        ((typedReader config path).read (w.note records)).reader :=
    fun _ hvalue => hserves.read_ok rfl hvalue
  dsimp only at hlists ⊢
  rw [readAll, hupcoming, readOver]
  generalize (typedReader config path).read (w.note records) = outcome at hlists hresult hnext ⊢
  obtain ⟨q, v, result⟩ := outcome
  cases hproduce : (typedReader config path).produce (w.note records) config path with
  | error failure =>
    rw [hproduce] at hresult
    obtain rfl : result = .error failure := hresult
    exact .inl ⟨failure, rfl, rfl⟩
  | ok object =>
    rw [hproduce] at hresult
    obtain rfl : result = .ok (some object) := hresult
    obtain ⟨rows, htypes, hobject⟩ := hlists object rfl
    have hlast := (hnext _ rfl).read_last rfl v
    dsimp only at hlast ⊢
    rw [readOver, hlast]
    exact .inr ⟨object, rows, rfl, rfl, htypes, hobject⟩

open Reader in
theorem perform_settles (hscope : ReaderConfig.checkScope t.parameters.scope = .ok .copybook)
    (hcase : ReaderConfig.checkCase t.parameters.case = .ok mode) :
    Settles mode (t.perform true w) := by
  unfold Task.perform
  have hnew : (newReader true).init t.parameters w = initTyped false t.parameters w := rfl
  rw [hnew]
  cases hconfig : ReaderConfig.ofParameters w.files t.parameters with
  | error failure =>
    have hrefused := init_error (r := newReader true) hconfig
    rw [hnew] at hrefused
    generalize initTyped false t.parameters w = outcome at hrefused ⊢
    obtain ⟨q, v, result⟩ := outcome
    obtain rfl : result = .error failure := hrefused
    exact .failed rfl rfl rfl
  | ok config =>
    obtain rfl := Except.ok.inj (hcase.symm.trans (ReaderConfig.ofParameters_checks hconfig).2)
    obtain ⟨path, hsource⟩ := ReaderConfig.copybook_of_scope hscope hconfig
    have hrest := readAll_typed hconfig hsource
    obtain ⟨records, hinit⟩ := initTyped_eq false hconfig hsource
    rw [hinit] at hrest ⊢
    dsimp only at hrest ⊢
    generalize (typedReader config path).readAll (w.note records) = rest at hrest ⊢
    obtain ⟨q, v, objects, failure⟩ := rest
    obtain ⟨failure, rfl, rfl⟩ | ⟨object, rows, rfl, rfl, htypes, hlists⟩ := hrest
    · exact .failed rfl rfl rfl
    · have htable : q.types = some ⟨TypeTable.usualColumns, rows⟩ := htypes
      have hrows : rowsOf (q.close v).1 none = rows := by
        rw [Reader.close, release_reader]
        simp [rowsOf, htable]
      refine .complete rfl rfl ?_
      rw [← hrows] at hlists
      exact hlists

theorem yields_settle {ts : List Task} (h : ∀ t ∈ ts,
      ReaderConfig.checkScope t.parameters.scope = .ok .copybook ∧
        ReaderConfig.checkCase t.parameters.case = .ok mode) (w : World) :
    ∀ y ∈ yields true ts w, Settles mode y := by
  induction ts generalizing w with
  | nil => exact fun y hy => absurd hy (List.not_mem_nil)
  | cons t rest ih =>
    obtain ⟨⟨hscope, hcase⟩, hlater⟩ := List.forall_mem_cons.mp h
    exact List.forall_mem_cons.mpr ⟨perform_settles hscope hcase, ih hlater _⟩

theorem tasks_typed {ts : List Task} {rules : Option Rule.Store} (htasks : tasks s rules = .ok ts)
    (hdirectories : s.directories.isTruthy = false) (hmode : s.caseMode? = some mode) :
    ∀ t ∈ ts, ReaderConfig.checkScope t.parameters.scope = .ok .copybook ∧
      ReaderConfig.checkCase t.parameters.case = .ok mode := by
  obtain ⟨copybooks, hcopybooks, htasks⟩ := bind_eq_ok_iff.mp htasks
  obtain ⟨directories, hlisted, htasks⟩ := bind_eq_ok_iff.mp htasks
  obtain rfl := Except.ok.inj htasks
  have hnone : directories = [] := by
    obtain ⟨sources, hsources, -, rfl⟩ := Setting.listed_ok hlisted
    refine List.eq_nil_iff_forall_not_mem.mpr fun name hname => ?_
    obtain ⟨source, hsource, -⟩ := List.mem_map.mp hname
    rw [Setting.isTruthy_of_mem_sources hsources hsource] at hdirectories
    cases hdirectories
  rw [hnone, List.map_nil, List.append_nil]
  intro t ht
  obtain ⟨path, -, rfl⟩ := List.mem_map.mp ht
  exact ⟨rfl, Settings.checkCase_caseMode? hmode⟩

theorem performAll_typed {ts : List Task} (hfault : (performAll true ts w).fault = none) :
    (performAll true ts w).objects = (yields true ts w).flatMap (·.objects) ∧
      (performAll true ts w).rows = (yields true ts w).flatMap (·.rows) := by
  induction ts generalizing w with
  | nil => exact ⟨rfl, rfl⟩
  | cons t rest ih =>
    have hproblem : ∀ fault, (t.perform true w).failure ≠ some (.fault fault) := by
      intro fault h
      simp [performAll, h] at hfault
    rw [performAll_cons t rest hproblem] at hfault ⊢
    obtain ⟨hobjects, hrows⟩ := ih hfault
    simp only [yields, List.flatMap_cons, hobjects, hrows, true_and]

/-- The report of a run in type mode: of a run that is refused there is nothing, and otherwise each
row names an attribute, in the order of the sources that have been read. -/
theorem perform_typed {depth : Json.Depth} {given : Option Rule.Store} {report : Report}
    (htyped : s.typeMode.isTruthy = true) (hreport : (perform depth s given w).result = .ok report) :
    (∃ errors, report = .refused errors) ∨ ∃ mode rules ts rows, s.caseMode? = some mode ∧
      (rulesFor depth s given w.files).result = .ok rules ∧ tasks s (some rules) = .ok ts ∧
      report.types = some ⟨TypeTable.usualColumns, rows⟩ ∧ Lists mode rows report.objects ∧
      let ys := yields true ts (w.note (rulesFor depth s given w.files).notes)
      rows = ys.flatMap (·.rows) ∧ report.objects = ys.flatMap (·.objects) ∧
        ∀ y ∈ ys, Settles mode y := by
  obtain hrefused | ⟨rules, ts, hvalid, hrules, htasks, hfault, rfl⟩ := perform_ok hreport
  · exact .inl hrefused
  · right
    rw [htyped] at hfault ⊢
    obtain ⟨⟨mode, hmode⟩, hdirectories⟩ := Settings.complaints_typed hvalid htyped
    obtain ⟨hobjects, hrows⟩ := performAll_typed hfault
    have hsettles := yields_settle (tasks_typed htasks hdirectories hmode)
      (w.note (rulesFor depth s given w.files).notes)
    refine ⟨mode, rules, ts, _, hmode, hrules, htasks, rfl, ?_, hrows, hobjects, hsettles⟩
    simp only [Progress.report, hobjects, hrows]
    exact lists_flatMap hsettles

/-- The second copybook ends in the middle of a picture, and the third one is not there. -/
def typedWorld : World :=
  Reader.directoryWorld [("A", "       05 a PIC X.\n       05 b PIC 9(4)."),
    ("B", "       05 c PIC X.\n       05 d PIC X(."), ("D", "       05 e PIC X.")]

def typedSettings : Settings where
  copybooks := .paths [Path.ofText "D/A", Path.ofText "D/B", Path.ofText "D/C", Path.ofText "D/D"]
  namespacePrefix := .value "P"
  case := .value "Upper"
  encoding := .value "ascii"
  typeMode := .value (.bool true)

/-- What the second copybook begins with is not reported. -/
theorem perform_typed_broken :
    typedSettings.typeMode.isTruthy = true ∧
      ∃ report table, (perform ⟨3, by decide⟩ typedSettings none typedWorld).result = .ok report ∧
        report.types = some table ∧ Lists .upper table.rows report.objects ∧
        table.rows.map (TypeTable.cell · "attribute") = (["a", "b", "e"] : List Text) ∧
        (report.objects.flatMap fun object => object.attributes.map (·.name)) =
          (["A", "B", "E"] : List Text) ∧
        report.errors.length = 2 := by
  have htyped : typedSettings.typeMode.isTruthy = true := rfl
  have hsummary :
      ((perform ⟨3, by decide⟩ typedSettings none typedWorld).result.toOption.map fun report =>
      (report.types.map fun table => table.rows.map (TypeTable.cell · "attribute"),
        report.objects.flatMap fun object => object.attributes.map (·.name),
        report.errors.length)) =
      some (some (["a", "b", "e"] : List Text), (["A", "B", "E"] : List Text), 2) := by
    decide +kernel
  cases hreport : (perform ⟨3, by decide⟩ typedSettings none typedWorld).result with
  | error fault => simp [hreport, Except.toOption] at hsummary
  | ok report =>
    rw [hreport] at hsummary
    simp only [Except.toOption, Option.map_some, Option.some.injEq, Prod.mk.injEq] at hsummary
    obtain ⟨hcells, hnames, herrors⟩ := hsummary
    obtain ⟨errors, rfl⟩ | ⟨mode, rules, ts, rows, hmode, -, -, htypes, hlists, -⟩ :=
      perform_typed htyped hreport
    · simp [Report.refused] at hcells
    · obtain rfl : CaseMode.upper = mode := by
        have hupper : typedSettings.caseMode? = some .upper := by decide +kernel
        exact Option.some.inj (hupper.symm.trans hmode)
      rw [htypes] at hcells
      exact ⟨htyped, report, _, rfl, htypes, hlists, Option.some.inj hcells, hnames, herrors⟩

end Run
end Copybook
