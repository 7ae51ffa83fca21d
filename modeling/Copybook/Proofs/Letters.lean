import Copybook.Proofs.Harvest
import Copybook.Proofs.Reader
import Copybook.Reader.Operation

/-!
Letters. A reader that is to give capital or small letters gives what one that leaves the letters
as they are would give, converted afterwards. The letters decide neither which entries become
attributes nor which rules apply, and nothing else that a reader does or leaves behind depends on
them. -/
namespace Copybook

namespace CaseMode

@[simp] theorem convert_nil (m : CaseMode) : m.convert [] = [] := by cases m <;> rfl

@[simp] theorem convert_mixed (t : Text) : CaseMode.mixed.convert t = t := rfl

end CaseMode

def Code.recased (m : CaseMode) (c : Code) : Code := ⟨m.convert c.value, m.convert c.description⟩

def Attribute.recased (m : CaseMode) (a : Attribute) : Attribute :=
  { a with
    name := m.convert a.name, dataType := m.convert a.dataType,
    commonType := m.convert a.commonType, defaultValue := m.convert a.defaultValue,
    codes := a.codes.map (Code.recased m) }

/-- An object with its letters converted. Its source stays as it is, and so do the number, the order
and the positions of its attributes. -/
def DataObject.recased (m : CaseMode) (o : DataObject) : DataObject :=
  { o with
    name := m.convert o.name, nameSpace := m.convert o.nameSpace,
    attributes := o.attributes.map (Attribute.recased m) }

namespace Harvest

variable {mapping : Mapping} {m : CaseMode} {copybook : Text}

def recased (m : CaseMode) (h : Harvest) : Harvest :=
  { h with attributes := h.attributes.map (Attribute.recased m) }

theorem recased_empty (m : CaseMode) : empty.recased m = empty := rfl

theorem recased_note (m : CaseMode) (h : Harvest) (records : List Log.Record) :
    (h.note records).recased m = (h.recased m).note records := rfl

theorem addCode_recased (m : CaseMode) (code : Code) (attributes : List Attribute) :
    addCode (code.recased m) (attributes.map (Attribute.recased m)) =
      (addCode code attributes).map (List.map (Attribute.recased m)) := by
  rcases List.eq_nil_or_concat attributes with rfl | ⟨init, last, rfl⟩
  · rfl
  · rw [List.concat_eq_append, List.map_append, List.map_singleton, addCode_concat,
      addCode_concat]
    simp [Attribute.addCode, Attribute.recased]

/-- Rules are looked up by the type of an entry, whose letters are not converted. -/
theorem mapEntry_recased (store : Rule.Store) (m : CaseMode) (e : Entry) (n : Nat) :
    mapEntry store m e n = ⟨(mapEntry store .mixed e n).notes,
      (mapEntry store .mixed e n).result.map (Attribute.recased m)⟩ := by
  unfold mapEntry
  dsimp only
  cases (Rule.resolve store (some "data-type") (some e.typeName) (ruleValues e)
    (some e.declaredType)).result with
  | error failure => rfl
  | ok data =>
    dsimp only
    cases (Rule.resolve store (some "common-type") (some e.typeName) (ruleValues e)
      (some [])).result <;> rfl

theorem addEntry_recased (mapping : Mapping) (m : CaseMode) (e : Entry) (h : Harvest) :
    addEntry mapping m e (h.recased m) =
      ((addEntry mapping .mixed e h).1.recased m, (addEntry mapping .mixed e h).2) := by
  cases mapping with
  | types => simp [addEntry, recased, Attribute.recased]
  | rules store =>
    simp only [addEntry, recased, List.length_map]
    rw [mapEntry_recased]
    cases (mapEntry store .mixed e (h.attributes.length + 1)).result with
    | error failure => rfl
    | ok a => simp [Except.map, note]

theorem take_recased (mapping : Mapping) (m : CaseMode) (copybook : Text) (s : Sentence)
    (h : Harvest) : take mapping m copybook s (h.recased m) =
      ((take mapping .mixed copybook s h).1.recased m, (take mapping .mixed copybook s h).2) := by
  unfold take
  split
  · rfl
  · cases Entry.read s.text with
    | error failure => rfl
    | ok e =>
      dsimp only
      rw [← recased_note]
      split
      · have hcode : (⟨m.convert e.value, m.convert e.name⟩ : Code) =
          Code.recased m ⟨CaseMode.mixed.convert e.value, CaseMode.mixed.convert e.name⟩ := rfl
        rw [hcode, recased, addCode_recased]
        cases addCode _ (h.note e.notes).attributes <;> rfl
      · split
        · exact addEntry_recased mapping m e (h.note e.notes)
        · rfl

theorem takeAll_recased (mapping : Mapping) (m : CaseMode) (copybook : Text)
    (sentences : List Sentence) (h : Harvest) :
    takeAll mapping m copybook sentences (h.recased m) =
      ((takeAll mapping .mixed copybook sentences h).1.recased m,
        (takeAll mapping .mixed copybook sentences h).2) := by
  induction sentences generalizing h with
  | nil => rfl
  | cons s rest ih =>
    rw [takeAll, takeAll, take_recased]
    generalize take mapping .mixed copybook s h = outcome
    obtain ⟨h', failure⟩ := outcome
    cases failure with
    | none => exact ih h'
    | some failure => rfl

theorem ofLines_recased (mapping : Mapping) (m : CaseMode) (copybook : Text) (lines : List Text)
    (broken : Option Failure) : ofLines mapping m copybook lines broken =
      ((ofLines mapping .mixed copybook lines broken).1.recased m,
        (ofLines mapping .mixed copybook lines broken).2) := by
  have hclosed := takeAll_recased mapping m copybook (Sentence.scan lines).closed empty
  unfold ofLines
  dsimp only
  rw [← recased_empty m, hclosed, recased_empty]
  generalize takeAll mapping .mixed copybook (Sentence.scan lines).closed empty = outcome
  obtain ⟨h, failure⟩ := outcome
  cases failure with
  | some failure => rfl
  | none =>
    cases broken with
    | some failure => rfl
    | none => exact takeAll_recased mapping m copybook _ (h.note (Sentence.scan lines).notes)

end Harvest

namespace ReaderConfig

variable {files : Files.Tree} {p : Parameters} {m : CaseMode}

def recased (m : CaseMode) (c : ReaderConfig) : ReaderConfig := { c with caseMode := m }

end ReaderConfig

def Parameters.withCase (v : Option Json.Value) (p : Parameters) : Parameters :=
  { p with case := v }

theorem ReaderConfig.ofParameters_recased {u v : Option Json.Value} {m m' : CaseMode}
    (hu : checkCase u = .ok m) (hv : checkCase v = .ok m') (files : Files.Tree) (p : Parameters) :
    ofParameters files (p.withCase v) = (ofParameters files (p.withCase u)).map (recased m') := by
  have hsource : ∀ v, checkSource files (p.withCase v) = checkSource files p := fun _ => rfl
  unfold ofParameters
  rw [hsource, hsource]
  dsimp only [Parameters.withCase]
  rw [hu, hv]
  cases checkSource files p with
  | error failure => rfl
  | ok source =>
    cases checkPrefix p.namespacePrefix with
    | error failure => rfl
    | ok namespacePrefix =>
      cases checkRules p.ruleStore with
      | error failure => rfl
      | ok rules => cases checkSorting p.sortMembers <;> rfl

namespace Reader

variable {r : Reader} {w : World} {m : CaseMode} {config : ReaderConfig} {path : Path}

def recased (m : CaseMode) (r : Reader) : Reader :=
  { r with config := r.config.map (ReaderConfig.recased m) }

def IsMixed (r : Reader) : Prop := ∀ config, r.config = some config → config.caseMode = .mixed

/-- An outcome for a reader that is to convert letters; `f` is what it makes of the value. -/
def Outcome.recased {α : Type} (m : CaseMode) (f : α → α) (o : Outcome α) : Outcome α :=
  ⟨o.reader.recased m, o.world, o.result.map f⟩

theorem release_recased (m : CaseMode) (r : Reader) (w : World) :
    (r.recased m).release w = ((r.release w).1.recased m, (r.release w).2) := by
  obtain ⟨_, _, _, _, _, _, _, handle⟩ := r
  cases handle <;> rfl

theorem fail_recased {α : Type} (m : CaseMode) (f : α → α) (r : Reader) (w : World)
    (problem : Problem) : (r.recased m).fail w problem = (r.fail w problem).recased m f := by
  unfold fail
  rw [release_recased]
  generalize r.release w = released
  obtain ⟨q, v⟩ := released
  dsimp only
  have hstatus : (q.recased m).status = q.status := rfl
  rw [hstatus]
  generalize q.status.append problem.message v = outcome
  obtain ⟨status, u, trouble⟩ := outcome
  cases trouble <;> rfl

theorem harvest_recased (hmixed : config.caseMode = .mixed) (r : Reader) (w : World) (path : Path)
    (opened : Bytes × Encoding.Decoder) :
    (r.recased m).harvest w (config.recased m) path opened =
      (r.harvest w config path opened).recased m (List.map (Attribute.recased m)) := by
  unfold harvest
  rw [hmixed]
  have hmapping : (r.recased m).mapping (config.recased m) = r.mapping config := rfl
  rw [hmapping]
  dsimp only [ReaderConfig.recased]
  rw [Harvest.ofLines_recased]
  generalize Harvest.ofLines (r.mapping config) .mixed path.name _ _ = outcome
  obtain ⟨h, failure⟩ := outcome
  dsimp only
  have hrelease := release_recased m
    { r with handle := some path, types := addRows r.types h.rows } (w.note h.notes)
  dsimp only [recased, Harvest.recased] at hrelease ⊢
  rw [hrelease]
  cases failure <;> rfl

theorem takeUp_recased (hmixed : config.caseMode = .mixed) (r : Reader) (w : World) (path : Path) :
    (r.recased m).takeUp w (config.recased m) path =
      (r.takeUp w config path).recased m (DataObject.recased m) := by
  unfold takeUp
  have hname : (r.recased m).namespaceOf (config.recased m) path = r.namespaceOf config path := rfl
  have hstatus : (r.recased m).status = r.status := rfl
  rw [hname, hstatus]
  dsimp only
  cases (r.namespaceOf config path).result with
  | error failure => rfl
  | ok nameSpace =>
    dsimp only
    generalize r.status.banner ("Importing " ++ path.name) _ = outcome
    obtain ⟨status, v, trouble⟩ := outcome
    cases trouble with
    | some trouble => rfl
    | none =>
      dsimp only [ReaderConfig.recased]
      generalize World.note v _ = u
      cases openCopybook u.files path config.encoding with
      | error failure => rfl
      | ok opened =>
        have hharvest := harvest_recased (m := m) hmixed { r with status := status } u path opened
        dsimp only [recased, ReaderConfig.recased] at hharvest ⊢
        rw [hharvest]
        generalize harvest _ u config path opened = outcome
        obtain ⟨q, x, result⟩ := outcome
        cases result with
        | error failure => rfl
        | ok attributes =>
          simp [Outcome.recased, Except.map, DataObject.recased, hmixed]

theorem readNext_recased (hmixed : r.IsMixed) (w : World) :
    (r.recased m).readNext w = (r.readNext w).recased m (Option.map (DataObject.recased m)) := by
  obtain ⟨phase, config, members, typeMode, types, status, problem, handle⟩ := r
  cases config with
  | none => rfl
  | some config =>
    cases members with
    | none => rfl
    | some members =>
      rcases hnext : members.next with ⟨next, members'⟩
      simp only [readNext, recased, Option.map_some, hnext]
      cases next with
      | none => rfl
      | some path =>
        have htaken := takeUp_recased (m := m) (hmixed config rfl)
          ⟨phase, some config, some members', typeMode, types, status, problem, handle⟩ w path
        dsimp only [recased, Option.map_some] at htaken ⊢
        rw [htaken]
        generalize takeUp _ w config path = outcome
        obtain ⟨q, v, result⟩ := outcome
        cases result <;> rfl

theorem read_recased (hmixed : r.IsMixed) (w : World) :
    (r.recased m).read w = (r.read w).recased m (Option.map (DataObject.recased m)) := by
  have hnext := readNext_recased (r := { r with phase := .reading }) (m := m) hmixed w
  have hphase : (r.recased m).phase = r.phase := rfl
  have hproblem : (r.recased m).problem = r.problem := rfl
  unfold read
  rw [hphase, hproblem]
  split
  · rfl
  · exact fail_recased m _ r w _
  · rfl
  · dsimp only [recased] at hnext ⊢
    rw [hnext]
    generalize readNext _ w = outcome
    obtain ⟨q, v, result⟩ := outcome
    cases result with
    | error failure =>
      cases failure with
      | problem problem => exact fail_recased m _ q v problem
      | fault fault => rfl
    | ok next => cases next <;> rfl

theorem enableTypeMode_recased (m : CaseMode) (r : Reader) :
    (r.recased m).enableTypeMode = (r.enableTypeMode.1.recased m, r.enableTypeMode.2) := by
  obtain ⟨phase, config, members, typeMode, types, status, problem, handle⟩ := r
  cases config with
  | none => cases phase <;> rfl
  | some config =>
    obtain ⟨source, namespacePrefix, rules, group, caseMode, encoding, sortMembers⟩ := config
    cases phase <;> cases source <;> rfl

theorem init_recased {u v : Option Json.Value} (hu : ReaderConfig.checkCase u = .ok .mixed)
    (hv : ReaderConfig.checkCase v = .ok m) (r : Reader) (w : World) (p : Parameters) :
    (r.recased m).init (p.withCase v) w = (r.init (p.withCase u) w).recased m id := by
  unfold init
  rw [ReaderConfig.ofParameters_recased hu hv]
  cases ReaderConfig.ofParameters w.files (p.withCase u) with
  | error failure =>
    cases failure with
    | fault fault => rfl
    | problem problem => exact fail_recased m id { r with config := none } w problem
  | ok config =>
    dsimp only [Except.map]
    have hsource : (config.recased m).source = config.source := rfl
    have hmembers : Members.ofConfig w.files (config.recased m) = Members.ofConfig w.files config :=
      rfl
    have hscope : checkTypeMode (config.recased m) = checkTypeMode config := rfl
    have hmode : (r.recased m).typeMode = r.typeMode := rfl
    rw [hsource, hmembers, hscope, hmode]
    cases Members.trouble? w.files config.source with
    | some fault => rfl
    | none =>
      dsimp only
      cases (if r.typeMode then checkTypeMode config else .ok ()) with
      | error problem =>
        exact fail_recased m id { r with config := none, members := _ } w problem
      | ok _ => rfl

theorem config_fail {α : Type} (r : Reader) (w : World) (problem : Problem) :
    (r.fail w problem : Outcome α).reader.config = r.config := by
  rw [(fail_leaves r w problem).1]

theorem config_readNext (r : Reader) (w : World) : (r.readNext w).reader.config = r.config := by
  obtain ⟨phase, config, members, typeMode, types, status, problem, handle⟩ := r
  cases config with
  | none => rfl
  | some config =>
    cases members with
    | none => rfl
    | some members =>
      rcases hnext : members.next with ⟨next, members'⟩
      cases next with
      | none => simp only [readNext, hnext]
      | some path =>
        simp only [readNext, hnext]
        exact (takeUp_spec _ w config path).1.config

theorem config_read (r : Reader) (w : World) : (r.read w).reader.config = r.config := by
  have hnext := config_readNext { r with phase := .reading } w
  unfold read
  split
  · rfl
  · exact config_fail r w _
  · rfl
  · generalize readNext _ w = outcome at hnext ⊢
    obtain ⟨q, v, result⟩ := outcome
    cases result with
    | error failure =>
      cases failure with
      | problem problem => exact (config_fail q v problem).trans hnext
      | fault fault => exact hnext
    | ok next => cases next <;> exact hnext

/-- What an operation gives back, with the letters of an object converted. A type table keeps its
letters. -/
def Answer.recased (m : CaseMode) : Answer → Answer
  | .object o => .object (o.map (DataObject.recased m))
  | answer => answer

def Call.withCase (v : Option Json.Value) (c : Call) : Call :=
  { c with
    operation := match c.operation with
      | .init p => .init (p.withCase v)
      | operation => operation }

section

variable {u v : Option Json.Value} (hu : ReaderConfig.checkCase u = .ok .mixed)
include hu

theorem isMixed_init (hmixed : r.IsMixed) (w : World) (p : Parameters) :
    (r.init (p.withCase u) w).reader.IsMixed := by
  have hcases := init_cases r (p.withCase u) w
  cases hverdict : verdict r.typeMode w.files (p.withCase u) with
  | ok config =>
    rw [hverdict] at hcases
    obtain ⟨records, hinit⟩ := hcases
    have hcase := (ReaderConfig.ofParameters_checks (verdict_ok hverdict).1).2
    rw [hinit]
    rintro _ ⟨⟩
    exact Except.ok.inj (hcase.symm.trans hu)
  | error failure =>
    rw [hverdict] at hcases
    cases failure with
    | problem problem =>
      obtain ⟨members, hinit⟩ := hcases
      rw [hinit, IsMixed, config_fail]
      rintro _ ⟨⟩
    | fault fault =>
      replace hcases : r.init (p.withCase u) w = ⟨r, w, .error (.fault fault)⟩ := hcases
      rw [hcases]
      exact hmixed

theorem isMixed_call (hmixed : r.IsMixed) (c : Call) :
    (r.call (c.withCase u)).reader.IsMixed := by
  obtain ⟨w, operation⟩ := c
  cases operation with
  | init p => exact isMixed_init hu hmixed w p
  | read =>
    intro config hconfig
    exact hmixed config ((config_read r w).symm.trans hconfig)
  | close =>
    intro config hconfig
    refine hmixed config (Eq.trans ?_ hconfig)
    change r.config = (r.release w).1.config
    rw [release_reader]
  | enableTypeMode =>
    intro config hconfig
    refine hmixed config (Eq.trans ?_ hconfig)
    change r.config = r.enableTypeMode.1.config
    unfold enableTypeMode
    split
    · rfl
    · dsimp only
      split <;> rfl
  | typeTable => exact hmixed
  | setSink sink => exact hmixed

variable (hv : ReaderConfig.checkCase v = .ok m)
include hv

theorem call_recased (hmixed : r.IsMixed) (c : Call) : (r.recased m).call (c.withCase v) =
    (r.call (c.withCase u)).recased m (Answer.recased m) := by
  obtain ⟨w, operation⟩ := c
  cases operation with
  | init p =>
    have hinit := init_recased hu hv r w p
    simp only [call, perform, Call.withCase, hinit, Outcome.map, Outcome.recased]
    cases (r.init (p.withCase u) w).result <;> rfl
  | read =>
    have hread := read_recased (m := m) hmixed w
    simp only [call, perform, Call.withCase, hread, Outcome.map, Outcome.recased]
    cases (r.read w).result <;> rfl
  | close =>
    simp only [call, perform, Call.withCase, close, release_recased, Outcome.recased]
    rfl
  | enableTypeMode =>
    simp only [call, perform, Call.withCase, enableTypeMode_recased, Outcome.recased]
    cases r.enableTypeMode.2 <;> rfl
  | typeTable =>
    have htable : (r.recased m).typeTable = r.typeTable := rfl
    simp only [call, perform, Call.withCase, htable, Outcome.recased]
    cases r.typeTable <;> rfl
  | setSink sink => rfl

/-- Calls of a reader that is to convert letters come to what the same calls come to for a reader
that leaves them as they are: the same failures and the same objects, with their letters converted.
The files, the log and the sink are left as they are left there. -/
theorem outcomes_recased (calls : List Call) :
    new.outcomes (calls.map (Call.withCase v)) =
      (new.outcomes (calls.map (Call.withCase u))).map (Outcome.recased m (Answer.recased m)) := by
  have hall : ∀ r : Reader, r.IsMixed → (r.recased m).outcomes (calls.map (Call.withCase v)) =
      (r.outcomes (calls.map (Call.withCase u))).map (Outcome.recased m (Answer.recased m)) := by
    induction calls with
    | nil => exact fun _ _ => rfl
    | cons c rest ih =>
      intro r hmixed
      simp only [List.map_cons, outcomes, call_recased hu hv hmixed c]
      rw [← ih _ (isMixed_call hu hmixed c)]
      rfl
  exact hall new (by rintro _ ⟨⟩)

end

def letteredWorld : World := sampleWorld "       05 Name PIC x(3).\n       88 Yes VALUE 'Ok'."

def stringRules : Rule.Store := (Rule.Table.empty .null).add (some "data-type") (some "ALPHANUM")
  (.text "String(%size%)")

def letteredCalls : List Call :=
  [⟨letteredWorld, .init { sampleParameters with
      ruleStore := some (.store stringRules), encoding := some "ascii" }⟩,
    ⟨letteredWorld, .read⟩, ⟨letteredWorld, .read⟩]

def attributesOf (outcomes : List (Outcome Answer)) : List Attribute :=
  outcomes.flatMap fun o => match o.result with
    | .ok (.object (some object)) => object.attributes
    | _ => []

theorem outcomes_recased_lower :
    let plain := new.outcomes (letteredCalls.map (Call.withCase none))
    let small := new.outcomes (letteredCalls.map (Call.withCase (some " Lower ")))
    ReaderConfig.checkCase none = .ok .mixed ∧
      ReaderConfig.checkCase (some " Lower ") = .ok .lower ∧
      small = plain.map (Outcome.recased .lower (Answer.recased .lower)) ∧
      attributesOf plain = [{
        name := "Name", seqNo := 1, dataType := "String(3)", codes := [⟨"Ok", "Yes"⟩] }] ∧
      attributesOf small = [{
        name := "name", seqNo := 1, dataType := "string(3)", codes := [⟨"ok", "yes"⟩] }] := by
  intro plain small
  have hmixed : ReaderConfig.checkCase none = .ok .mixed := rfl
  have hlower : ReaderConfig.checkCase (some " Lower ") = .ok .lower := by decide +kernel
  exact ⟨hmixed, hlower, outcomes_recased hmixed hlower letteredCalls, by decide +kernel,
    by decide +kernel⟩

end Reader
end Copybook
