import Copybook.Proofs.Lifecycle
import Copybook.Proofs.Refusal
import Copybook.Proofs.Surroundings

/-!
Type mode and the usual mode. A copybook that can be read with some rules can be read in type mode
with any. The attributes are the same but for their types, and the row of each one notes its name
and the type that it has without rules. -/
namespace Copybook
namespace Harvest

variable {mapping other : Mapping} {mode : CaseMode} {copybook : Text} {lines : List Text}
  {broken : Option Failure} {attributes attributes' : List Attribute} {rows rows' : List TypeRow}
  {entries : List Entry}

structure Parallel (attributes others : List Attribute) : Prop where
  names : attributes.map (·.name) = others.map (·.name)
  numbers : attributes.map (·.seqNo) = others.map (·.seqNo)
  codes : attributes.map (·.codes) = others.map (·.codes)

theorem Renders.parallel (h : Renders mapping mode entries attributes)
    (h' : Renders other mode entries attributes') : Parallel attributes attributes' := by
  have hlength : attributes.length = attributes'.length := by
    rw [← h.described.length_eq, ← h'.described.length_eq]
  refine ⟨h.names.trans h'.names.symm, ?_, h.owned.trans h'.owned.symm⟩
  rw [h.numbers, h'.numbers, hlength]

theorem attributeOf_empty (group : Json.Value) (mode : CaseMode) (e : Entry) (n : Nat) :
    ∃ a, attributeOf (.rules (.empty group)) mode e n = .ok a ∧
      a.dataType = mode.convert e.declaredType :=
  ⟨_, rfl, rfl⟩

theorem Run.rows_eq {sentences : List Sentence}
    (h : Run mapping mode copybook sentences attributes rows attributes' rows' none) :
    ∃ entries, List.Forall₂ Reads (worded sentences) entries ∧
      rows' = rows ++ (entries.filter isKept).flatMap (rowsOf mapping) := by
  generalize hn : (none : Option Failure) = result at h
  induction h with
  | done => exact ⟨[], .nil, by simp⟩
  | stop => cases hn
  | @next s rest _ _ _ _ _ _ _ ht _ ih =>
    obtain ⟨entries, hreads, hrows⟩ := ih hn
    cases ht with
    | empty ht =>
      rw [worded_cons_empty ht]
      exact ⟨entries, hreads, hrows⟩
    | @skipped e ht he hc hk =>
      rw [worded_cons ht]
      exact ⟨e :: entries, .cons he hreads, by simp [hrows, hk]⟩
    | @code e init last ht he hc ha =>
      rw [worded_cons ht]
      exact ⟨e :: entries, .cons he hreads, by simp [hrows, not_isKept_of_isCode hc]⟩
    | @item e a ht he hk hm =>
      rw [worded_cons ht]
      exact ⟨e :: entries, .cons he hreads, by simp [hrows, hk]⟩

theorem ofLines_of_reads (h : (ofLines mapping mode copybook lines none).2 = none)
    (hreads : List.Forall₂ Reads (worded (Sentence.ofLines lines)) entries) :
    Renders mapping mode entries (ofLines mapping mode copybook lines none).1.attributes ∧
      (ofLines mapping mode copybook lines none).1.rows =
        (entries.filter isKept).flatMap (rowsOf mapping) := by
  have hrun := run_ofLines mapping mode copybook lines
  rw [h] at hrun
  obtain ⟨entries', hreads', -, hrenders⟩ := ofLines_renders h
  obtain ⟨entries'', hreads'', hrows⟩ := hrun.rows_eq
  obtain rfl := List.right_unique_forall₂' reads_rightUnique hreads' hreads
  obtain rfl := List.right_unique_forall₂' reads_rightUnique hreads'' hreads
  exact ⟨hrenders, by simpa using hrows⟩

/-- A mapping that has a type for every entry takes whatever another one takes. -/
theorem ofLines_total (htotal : ∀ e, ∃ a, attributeOf other mode e 1 = .ok a)
    (h : (ofLines mapping mode copybook lines none).2 = none) :
    (ofLines other mode copybook lines none).2 = none := by
  obtain ⟨entries, hreads, horphan, -⟩ := ofLines_renders h
  have hcan : CanTake other mode (Sentence.ofLines lines) entries :=
    ⟨hreads, horphan, fun e _ _ => htotal e⟩
  exact (run_ofLines other mode copybook lines).eq_none hcan

/-- A harvest with types noted beside one with rules and one without any. -/
structure NotesTypes (mode : CaseMode) (ruled typed plain : Harvest) : Prop where
  ruled : Parallel typed.attributes ruled.attributes
  unruled : Parallel typed.attributes plain.attributes
  /-- Each row is that of an item. -/
  items : ∃ items : List Entry, typed.rows = items.map typeRow ∧
    typed.attributes.map (·.name) = items.map (fun e => mode.convert e.name) ∧
    plain.attributes.map (·.dataType) = items.map fun e => mode.convert e.declaredType

theorem ofLines_notesTypes (group : Json.Value)
    (h : (ofLines mapping mode copybook lines broken).2 = none) :
    (ofLines .types mode copybook lines broken).2 = none ∧
      (ofLines (.rules (.empty group)) mode copybook lines broken).2 = none ∧
      NotesTypes mode (ofLines mapping mode copybook lines broken).1
        (ofLines .types mode copybook lines broken).1
        (ofLines (.rules (.empty group)) mode copybook lines broken).1 := by
  obtain rfl := broken_eq_none_of_ofLines h
  obtain ⟨entries, hreads, -, hruled⟩ := ofLines_renders h
  have htyped : (ofLines .types mode copybook lines none).2 = none :=
    ofLines_total (fun e => ⟨_, rfl⟩) h
  have hplain : (ofLines (.rules (.empty group)) mode copybook lines none).2 = none :=
    ofLines_total (fun e => ⟨_, rfl⟩) h
  obtain ⟨hrenders, hrows⟩ := ofLines_of_reads htyped hreads
  obtain ⟨hdeclared, -⟩ := ofLines_of_reads hplain hreads
  refine ⟨htyped, hplain, hrenders.parallel hruled, hrenders.parallel hdeclared,
    entries.filter isKept, ?_, hrenders.names, ?_⟩
  · exact hrows.trans List.map_eq_flatMap.symm
  · refine map_eq_of_forall₂ hdeclared.described fun e a ha => ?_
    obtain ⟨b, hb, htype⟩ := attributeOf_empty group mode e a.seqNo
    obtain rfl := Except.ok.inj (ha.symm.trans hb)
    exact htype

end Harvest

namespace TypeTable

theorem foldl_add_typeRow (rows : List TypeRow) (entries : List Entry) :
    (entries.map Harvest.typeRow).foldl add ⟨usualColumns, rows⟩ =
      ⟨usualColumns, rows ++ entries.map Harvest.typeRow⟩ := by
  induction entries generalizing rows with
  | nil => simp
  | cons e rest ih =>
    have hadd : add ⟨usualColumns, rows⟩ (Harvest.typeRow e) =
        ⟨usualColumns, rows ++ [Harvest.typeRow e]⟩ := rfl
    rw [List.map_cons, List.foldl_cons, hadd, ih, List.append_assoc, List.singleton_append]

end TypeTable

def Parameters.withRules (p : Parameters) (rules : Rule.Store) : Parameters :=
  { p with ruleStore := some (.store rules) }

namespace ReaderConfig

variable {files files' : Files.Tree} {p : Parameters} {config : ReaderConfig} {path : Path}

theorem checkFile_congr {v : Option Json.Value} {bytes : Bytes}
    (h : checkFile files v = .ok path) (hread : files'.read path = .ok bytes) :
    checkFile files' v = .ok path := by
  unfold checkFile at h ⊢
  cases hgiven : Parameters.given v with
  | none => simp [hgiven] at h
  | some given =>
    rw [hgiven] at h
    obtain ⟨⟨written, found⟩, hfound, h⟩ := bind_eq_ok_iff.mp h
    obtain ⟨node, -, h⟩ := bind_eq_ok_iff.mp h
    obtain rfl : found = path := by
      cases node with
      | none => cases h
      | some node =>
        cases node with
        | directory => cases h
        | file content => exact Except.ok.inj h
    simp [hfound, lookAt, Files.Tree.look_of_read hread, bind, Except.bind]

theorem ofParameters_withRules {bytes : Bytes} (h : ofParameters files p = .ok config)
    (hsource : config.source = .copybook path) (hread : files'.read path = .ok bytes)
    (rules : Rule.Store) :
    ofParameters files' (p.withRules rules) = .ok { config with rules := rules } := by
  simp only [ofParameters, bind_eq_ok_iff] at h
  obtain ⟨source, hchecked, namespacePrefix, hspace, store, -, caseMode, hcase, sortMembers, hsort,
    hconfig⟩ := h
  obtain rfl := Except.ok.inj hconfig
  obtain rfl : source = .copybook path := hsource
  have hsource' : checkSource files' (p.withRules rules) = .ok (.copybook path) := by
    obtain ⟨scope, hscope, hplace⟩ := bind_eq_ok_iff.mp hchecked
    cases scope with
    | directory =>
      obtain ⟨place, -, hplace⟩ := bind_eq_ok_iff.mp hplace
      cases hplace
    | copybook =>
      obtain ⟨place, hfile, heq⟩ := bind_eq_ok_iff.mp hplace
      obtain rfl := Source.copybook.inj (Except.ok.inj heq)
      simp [checkSource, Parameters.withRules, hscope, checkFile_congr hfile hread, bind,
        Except.bind, pure, Except.pure]
  rw [ofParameters, hsource']
  dsimp only [Parameters.withRules, bind, Except.bind]
  rw [hspace, hcase, hsort]
  rfl

end ReaderConfig

namespace Reader

variable {r : Reader} {v w : World} {config : ReaderConfig} {path : Path}
  {files : Files.Tree} {opened : Bytes × Encoding.Decoder}

theorem read_of_openCopybook {encoding : Json.Value}
    (h : openCopybook files path encoding = .ok opened) : ∃ bytes, files.read path = .ok bytes := by
  unfold openCopybook at h
  split at h
  · split at h
    · cases h
    · split at h
      · cases h
      · cases h
      · exact ⟨_, ‹_›⟩
  · cases h

/-- A silent reader opens a member among the files that are there. -/
theorem announced_suppressed (h : r.status.suppressed = true) (w : World) (path : Path) :
    r.announced w path = .ok w.files := by
  simp [announced, StatusLog.banner, StatusLog.appendAll, StatusLog.append, h]

theorem announced_apart (h : w.IsApart path) (hfiles : r.announced w path = .ok files) :
    files.read path = w.files.read path := by
  have hbanner := StatusLog.appendAll_lasts
    (World.matches_agrees_and (World.kept_apart w.files path)).toLasts r.status
    [StatusLog.separator, "Importing " ++ path.name, StatusLog.separator]
    (v := w) (w := w) ⟨⟨rfl, rfl⟩, h, rfl⟩
  unfold announced StatusLog.banner at hfiles
  generalize r.status.appendAll _ w = outcome at hbanner hfiles
  obtain ⟨status, x, problem⟩ := outcome
  obtain ⟨-, -, -, -, hread⟩ := hbanner
  cases problem with
  | some problem => cases hfiles
  | none =>
    obtain rfl := Except.ok.inj hfiles
    exact hread

theorem produce_of_harvested {nameSpace : Option Text}
    (hname : (r.namespaceOf config path).result = .ok nameSpace)
    (hfiles : r.announced w path = .ok files)
    (hopen : openCopybook files path config.encoding = .ok opened)
    (hends : (r.harvested config path opened).2 = none) :
    r.produce w config path = .ok {
      name := config.caseMode.convert path.name
      nameSpace := config.caseMode.convert (nameSpace.getD [])
      attributes := (r.harvested config path opened).1.attributes
      source := path.toText } := by
  simp only [produce, hname, hfiles, hopen, mapError_ok, bind, Except.bind]
  generalize r.harvested config path opened = outcome at hends ⊢
  obtain ⟨h, failure⟩ := outcome
  obtain rfl : failure = none := hends
  rfl

theorem takeUp_types (hs : r.status.suppressed = true) {nameSpace : Option Text}
    (hname : (r.namespaceOf config path).result = .ok nameSpace)
    (hopen : openCopybook w.files path config.encoding = .ok opened) :
    (r.takeUp w config path).reader.types =
      addRows r.types (r.harvested config path opened).1.rows := by
  have hbanner : r.status.banner ("Importing " ++ path.name)
      (w.note (r.namespaceOf config path).notes) =
      ⟨r.status, w.note (r.namespaceOf config path).notes, none⟩ := by
    simp [StatusLog.banner, StatusLog.appendAll, StatusLog.append, hs]
  unfold takeUp
  dsimp only
  rw [hname, hbanner]
  dsimp only
  generalize hu : (w.note _).note _ = u
  have hfiles : u.files = w.files := by rw [← hu]; rfl
  have htypes := congrArg Reader.types (harvest_leaves r u config path opened).1
  rw [hfiles, hopen]
  dsimp only at htypes ⊢
  generalize r.harvest u config path opened = outcome at htypes ⊢
  obtain ⟨q, x, result⟩ := outcome
  cases result <;> exact htypes

def firstRead (p : Parameters) (w : World) : Outcome (Option DataObject) :=
  let o := new.init p w
  o.reader.read o.world

/-- A new reader in type mode that has been given parameters; `late` says that the mode has been
switched on after that and not before. -/
def initTyped (late : Bool) (p : Parameters) (w : World) : Outcome Unit :=
  if late then
    let o := new.init p w
    ⟨o.reader.enableTypeMode.1, o.world,
      o.result.bind fun _ => o.reader.enableTypeMode.2.mapError .problem⟩
  else new.enableTypeMode.1.init p w

variable {p : Parameters} {object : DataObject}

theorem firstRead_config (h : (firstRead p w).result = .ok (some object)) :
    ∃ config, ReaderConfig.ofParameters w.files p = .ok config := by
  obtain ⟨config, -, -, -, hconfig, -⟩ := read_some h
  have hcases := init_cases new p w
  cases hverdict : verdict new.typeMode w.files p with
  | ok config => exact ⟨config, (verdict_ok hverdict).1⟩
  | error failure =>
    rw [hverdict] at hcases
    cases failure with
    | problem problem =>
      obtain ⟨members, hinit⟩ := hcases
      rw [hinit, (fail_leaves _ _ _).1] at hconfig
      cases hconfig
    | fault fault =>
      rw [hcases] at hconfig
      cases hconfig

theorem init_copybook (r : Reader) (hconfig : ReaderConfig.ofParameters w.files p = .ok config)
    (hsource : config.source = .copybook path) : ∃ records, r.init p w = ⟨{ r with
      phase := .configured, config := some config, members := some ⟨.copybook, [path], 0⟩ },
      w.note records, .ok ()⟩ := by
  have hcases := init_cases r p w
  have hverdict : verdict r.typeMode w.files p = .ok config := by
    rw [verdict, hconfig]
    cases r.typeMode <;> simp [hsource, checkTypeMode, ReaderConfig.scope, Members.trouble?, bind,
      Except.bind]
  have hmembers : Members.ofConfig w.files config = ⟨.copybook, [path], 0⟩ := by
    rw [Members.ofConfig, hsource]
    rfl
  rw [hverdict] at hcases
  obtain ⟨records, hinit⟩ := hcases
  rw [hmembers] at hinit
  exact ⟨records, hinit⟩

theorem firstRead_produce (hconfig : ReaderConfig.ofParameters w.files p = .ok config)
    (hsource : config.source = .copybook path) : ∃ records, (firstRead p w).result =
      (new.produce (w.note records) config path).map some := by
  obtain ⟨records, hinit⟩ := init_copybook new hconfig hsource
  refine ⟨records, ?_⟩
  unfold firstRead
  rw [hinit]
  have hserves : Serves new config ⟨.copybook, [path], 0⟩ { new with
      phase := .configured, config := some config, members := some ⟨.copybook, [path], 0⟩ } :=
    ⟨.inl rfl, rfl, rfl, rfl, rfl⟩
  exact hserves.read_result rfl (w.note records)

def typedReader (config : ReaderConfig) (path : Path) : Reader :=
  { new.enableTypeMode.1 with
    phase := .configured, config := some config, members := some ⟨.copybook, [path], 0⟩ }

theorem serves_typedReader (config : ReaderConfig) (path : Path) :
    Serves (typedReader config path) config ⟨.copybook, [path], 0⟩ (typedReader config path) :=
  ⟨.inl rfl, rfl, rfl, rfl, rfl⟩

theorem initTyped_eq (late : Bool) (hconfig : ReaderConfig.ofParameters w.files p = .ok config)
    (hsource : config.source = .copybook path) : ∃ records,
      initTyped late p w = ⟨typedReader config path, w.note records, .ok ()⟩ := by
  cases late with
  | false => exact init_copybook new.enableTypeMode.1 hconfig hsource
  | true =>
    obtain ⟨records, hinit⟩ := init_copybook new hconfig hsource
    refine ⟨records, ?_⟩
    unfold initTyped
    rw [hinit]
    simp [enableTypeMode, checkTypeMode, ReaderConfig.scope, hsource, typedReader, new, Except.bind]

def harvestBy (mapping : Mapping) (mode : CaseMode) (path : Path)
    (opened : Bytes × Encoding.Decoder) : Harvest.Outcome :=
  let delivery := Encoding.deliver opened.2 opened.1
  Harvest.ofLines mapping mode path.name delivery.lines (delivery.failure.map (readingFailure path))

theorem harvestBy_notesTypes {mapping : Mapping} {mode : CaseMode} (group : Json.Value)
    (h : (harvestBy mapping mode path opened).2 = none) :
    (harvestBy .types mode path opened).2 = none ∧
      (harvestBy (.rules (.empty group)) mode path opened).2 = none ∧
      Harvest.NotesTypes mode (harvestBy mapping mode path opened).1
        (harvestBy .types mode path opened).1
        (harvestBy (.rules (.empty group)) mode path opened).1 :=
  Harvest.ofLines_notesTypes group h

/-- Objects that a harvest of a copybook comes to; the namespace is left open. -/
structure Holds (mode : CaseMode) (path : Path) (h : Harvest) (object : DataObject) : Prop where
  name : object.name = mode.convert path.name
  source : object.source = path.toText
  attributes : object.attributes = h.attributes

theorem firstRead_some (hsource : ReaderConfig.checkSource w.files p = .ok (.copybook path))
    (hapart : w.IsApart path) (hread : (firstRead p w).result = .ok (some object)) :
    ∃ config opened, ReaderConfig.ofParameters w.files p = .ok config ∧
      config.source = .copybook path ∧ openCopybook w.files path config.encoding = .ok opened ∧
      (harvestBy (.rules config.rules) config.caseMode path opened).2 = none ∧
      Holds config.caseMode path (harvestBy (.rules config.rules) config.caseMode path opened).1
        object := by
  obtain ⟨config, hconfig⟩ := firstRead_config hread
  have hcopybook : config.source = .copybook path :=
    Except.ok.inj ((ReaderConfig.ofParameters_checks hconfig).1.symm.trans hsource)
  obtain ⟨records, hfirst⟩ := firstRead_produce hconfig hcopybook
  have hproduce : new.produce (w.note records) config path = .ok object := by
    rw [hread] at hfirst
    cases hresult : new.produce (w.note records) config path with
    | error failure => simp [hresult, Except.map] at hfirst
    | ok object' => simpa [hresult, Except.map, eq_comm] using hfirst
  obtain ⟨nameSpace, files, opened, -, hfiles, hopen, hends, rfl⟩ := produce_ok hproduce
  have hkept := announced_apart (w := w.note records) hapart hfiles
  exact ⟨config, opened, hconfig, hcopybook, (openCopybook_congr hkept _).symm.trans hopen, hends,
    rfl, rfl, rfl⟩

theorem firstRead_plain (hconfig : ReaderConfig.ofParameters w.files p = .ok config)
    (hsource : config.source = .copybook path) {group : Json.Value}
    (hrules : config.rules = .empty group) (hw : w.Preserves files path)
    (hopen : openCopybook files path config.encoding = .ok opened)
    (hends : (harvestBy (.rules (.empty group)) config.caseMode path opened).2 = none) :
    ∃ plain, (firstRead p w).result = .ok (some plain) ∧
      Holds config.caseMode path (harvestBy (.rules (.empty group)) config.caseMode path opened).1
        plain := by
  obtain ⟨records, hfirst⟩ := firstRead_produce hconfig hsource
  obtain ⟨files', hfiles, hkept⟩ := announced_preserves new (hw.note records)
  have hharvested : new.harvested config path opened =
      harvestBy (.rules (.empty group)) config.caseMode path opened := by rw [← hrules]; rfl
  have hname : (new.namespaceOf config path).result = .ok (some config.namespacePrefix) := by
    rw [namespaceOf, hrules]
    rfl
  have hproduce := produce_of_harvested hname hfiles ((openCopybook_congr hkept _).trans hopen)
    (hharvested ▸ hends)
  rw [hproduce] at hfirst
  exact ⟨_, hfirst, rfl, rfl, by rw [hharvested]⟩

theorem initTyped_read (late : Bool) (hconfig : ReaderConfig.ofParameters w.files p = .ok config)
    (hsource : config.source = .copybook path)
    (hopen : openCopybook w.files path config.encoding = .ok opened)
    (hends : (harvestBy .types config.caseMode path opened).2 = none) :
    let start := initTyped late p w
    let last := start.reader.read start.world
    start.result = .ok () ∧ (∃ typed, last.result = .ok (some typed) ∧
        Holds config.caseMode path (harvestBy .types config.caseMode path opened).1 typed) ∧
      last.reader.typeTable =
        .ok ((harvestBy .types config.caseMode path opened).1.rows.foldl TypeTable.add .empty) := by
  obtain ⟨records, hstart⟩ := initTyped_eq late hconfig hsource
  rw [hstart]
  dsimp only
  rw [(serves_typedReader config path).read_member rfl]
  generalize hr : ({ typedReader config path with
    phase := .reading, members := some _ } : Reader) = r
  obtain ⟨hmode, hsuppressed, htypes⟩ :
      r.typeMode = true ∧ r.status.suppressed = true ∧ r.types = some .empty := by
    rw [← hr]
    exact ⟨rfl, rfl, rfl⟩
  have hname : (r.namespaceOf config path).result = .ok (some config.namespacePrefix) := by
    simp [namespaceOf, hmode]
  have hharvested : r.harvested config path opened =
      harvestBy .types config.caseMode path opened := by
    simp [harvested, harvestBy, mapping, hmode]
  have hannounced := announced_suppressed hsuppressed (w.note records) path
  have hproduce := produce_of_harvested hname hannounced hopen (hharvested ▸ hends)
  have hrows := takeUp_types (w := w.note records) hsuppressed hname hopen
  obtain ⟨hkeeps, hresult⟩ := takeUp_spec r (w.note records) config path
  rw [hproduce] at hresult
  generalize r.takeUp (w.note records) config path = outcome at hkeeps hresult hrows ⊢
  obtain ⟨q, x, result⟩ := outcome
  obtain rfl : result = _ := hresult
  refine ⟨rfl, ⟨_, rfl, rfl, rfl, by rw [hharvested]⟩, ?_⟩
  have hmode' : q.typeMode = true := hkeeps.typeMode.trans hmode
  have htypes' : q.types = _ := hrows
  rw [htypes, hharvested] at htypes'
  simp [typeTable, hmode', htypes', addRows]

/-- What a read in type mode leaves beside the object of a usual read: an object that is the same
but for types and namespace, and a table with a row for each attribute, which names it. -/
structure Accords (mode : CaseMode) (object typed : DataObject) (table : TypeTable) : Prop where
  name : typed.name = object.name
  source : typed.source = object.source
  attributes : Harvest.Parallel typed.attributes object.attributes
  columns : table.columns = TypeTable.usualColumns
  rows : table.rows.map (fun row => mode.convert (TypeTable.cell row "attribute")) =
    typed.attributes.map (·.name)

/-- The rows of a table give the types that attributes have without rules. -/
structure Declares (mode : CaseMode) (typed plain : DataObject) (table : TypeTable) : Prop where
  attributes : Harvest.Parallel typed.attributes plain.attributes
  rows : table.rows.map (fun row => mode.convert (TypeTable.cell row "declaration")) =
    plain.attributes.map (·.dataType)

/-- A copybook that is read with some rules is read in type mode with any rules, sound or not, and
so is it without rules. The sink may be anything but the copybook itself. -/
theorem typed_read_accords
    (hsource : ReaderConfig.checkSource w.files p = .ok (.copybook path)) (hapart : w.IsApart path)
    (hread : (firstRead p w).result = .ok (some object))
    (hsame : v.files.read path = w.files.read path) (rules : Rule.Store) (late : Bool) :
    let start := initTyped late (p.withRules rules) v
    let last := start.reader.read start.world
    start.result = .ok () ∧ ∃ mode typed table, ReaderConfig.checkCase p.case = .ok mode ∧
      last.result = .ok (some typed) ∧ last.reader.typeTable = .ok table ∧
      Accords mode object typed table ∧
      ∀ group (u : World), u.Preserves w.files path →
        ∃ plain, (firstRead (p.withRules (.empty group)) u).result = .ok (some plain) ∧
          Declares mode typed plain table := by
  intro start last
  obtain ⟨config, opened, hconfig, hcopybook, hopen, hends, hobject⟩ :=
    firstRead_some hsource hapart hread
  obtain ⟨bytes, hbytes⟩ := read_of_openCopybook hopen
  have hcase := (ReaderConfig.ofParameters_checks hconfig).2
  have htyped := ReaderConfig.ofParameters_withRules hconfig hcopybook (hsame.trans hbytes) rules
  obtain ⟨hends', -, hruled, -, items, hrows, hnames, -⟩ := harvestBy_notesTypes .null hends
  obtain ⟨hstart, ⟨typed, hlast, hholds⟩, htable⟩ := initTyped_read late htyped hcopybook
    ((openCopybook_congr hsame _).trans hopen) hends'
  dsimp only at hholds htable
  rw [hrows, TypeTable.empty, TypeTable.foldl_add_typeRow, List.nil_append, ← hrows] at htable
  refine ⟨hstart, config.caseMode, typed, _, hcase, hlast, htable, ?_, ?_⟩
  · rw [← hholds.attributes, ← hobject.attributes] at hruled
    refine ⟨hholds.name.trans hobject.name.symm, hholds.source.trans hobject.source.symm, hruled,
      rfl, ?_⟩
    rw [hholds.attributes, hnames, hrows, List.map_map]
    rfl
  · intro group u hu
    obtain ⟨-, hplain, -, hunruled, items, hrows, -, htypes⟩ := harvestBy_notesTypes group hends
    have hconfig' := ReaderConfig.ofParameters_withRules hconfig hcopybook
      (hu.unchanged.trans hbytes) (.empty group)
    obtain ⟨plain, hfirst, hheld⟩ := firstRead_plain hconfig' hcopybook rfl hu hopen hplain
    refine ⟨plain, hfirst, ?_, ?_⟩
    · rw [← hholds.attributes] at hunruled
      rw [hheld.attributes]
      exact hunruled
    · rw [hheld.attributes, htypes, hrows, List.map_map]
      rfl

def itemsWorld : World :=
  sampleWorld "       05 A PIC X(3).\n       88 YES VALUE 'Y'.\n       05 B PIC 9(5) COMP."

/-- The rule for texts has a span without an end. -/
def brokenRules : Rule.Store := (Rule.Table.empty .null).add (some "data-type") (some "ALPHANUM")
  (.text "[!1")

/-- Rules with which the copybook cannot be read do not matter in type mode. -/
theorem typed_read_accords_broken :
    let p : Parameters := { sampleParameters with encoding := some "ascii" }
    let path := Path.ofText "C"
    let start := initTyped true (p.withRules brokenRules) itemsWorld
    let last := start.reader.read start.world
    (firstRead (p.withRules brokenRules) itemsWorld).result.isOk = false ∧
      ReaderConfig.checkSource itemsWorld.files p = .ok (.copybook path) ∧
      itemsWorld.IsApart path ∧ ∃ object, (firstRead p itemsWorld).result = .ok (some object) ∧
      start.result = .ok () ∧ ∃ typed table plain, last.result = .ok (some typed) ∧
        last.reader.typeTable = .ok table ∧ Accords .mixed object typed table ∧
        table.rows.map (TypeTable.cell · "declaration") = ["X(3)", "9(5) COMP"] ∧
        (firstRead (p.withRules (.empty .null)) itemsWorld).result = .ok (some plain) ∧
        Declares .mixed typed plain table := by
  intro p path start last
  have hbroken : (firstRead (p.withRules brokenRules) itemsWorld).result.isOk = false := by
    decide +kernel
  have hsource : ReaderConfig.checkSource itemsWorld.files p = .ok (.copybook path) := rfl
  have hapart : itemsWorld.IsApart path := by rintro place ⟨⟩
  have hread : ((firstRead p itemsWorld).result.toOption.join).isSome = true := by decide +kernel
  have hdeclared : (last.reader.typeTable.toOption.map fun table =>
      table.rows.map (TypeTable.cell · "declaration")) =
        some (["X(3)", "9(5) COMP"] : List Text) := by
    decide +kernel
  obtain ⟨object, hobject⟩ : ∃ object, (firstRead p itemsWorld).result = .ok (some object) := by
    cases hresult : (firstRead p itemsWorld).result with
    | error failure => simp [hresult, Except.toOption] at hread
    | ok value =>
      cases value with
      | none => simp [hresult, Except.toOption] at hread
      | some object => exact ⟨object, rfl⟩
  obtain ⟨hstart, mode, typed, table, hcase, hlast, htable, haccords, hplain⟩ :=
    typed_read_accords hsource hapart hobject (v := itemsWorld) rfl brokenRules true
  obtain rfl : .mixed = mode := Except.ok.inj hcase
  obtain ⟨plain, hfirst, hdeclares⟩ :=
    hplain .null itemsWorld ⟨trivial, by rintro place ⟨⟩, rfl⟩
  have htable' : last.reader.typeTable = .ok table := htable
  rw [htable'] at hdeclared
  exact ⟨hbroken, hsource, hapart, object, hobject, hstart, typed, table, plain, hlast, htable,
    haccords, Option.some.inj hdeclared, hfirst, hdeclares⟩

end Reader
end Copybook
