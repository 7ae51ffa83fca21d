import Copybook.Proofs.Columns
import Copybook.Proofs.TypeMode

/-!
Two readers with copybooks that differ only in what says nothing. Both come to the same object, or
both fail for the same reason, and then each names the line of its own copybook on which the
sentence begins that is at fault. -/
namespace Copybook

namespace World

/-- Surroundings whose sinks take the same writes, whatever they hold. -/
def SameRoom (v w : World) : Prop :=
  match v.sink, w.sink with
  | none, none | some .closed, some .closed | some (.file _), some (.file _) => True
  | some (.memory _ room), some (.memory _ room') => room = room'
  | _, _ => False

variable {v w : World}

theorem sameRoom_of_eq (h : v.sink = w.sink) : v.SameRoom w := by
  unfold SameRoom
  rw [h]
  cases w.sink with
  | none => trivial
  | some sink => cases sink <;> trivial

theorem SameRoom.send (h : v.SameRoom w) (text text' : Text) :
    (v.send text).2 = (w.send text').2 ∧ (v.send text).1.SameRoom (w.send text').1 := by
  obtain ⟨files, log, sink, closeFails⟩ := v
  obtain ⟨files', log', sink', closeFails'⟩ := w
  cases sink with
  | none =>
    cases sink' with
    | none => exact ⟨rfl, h⟩
    | some sink' => exact h.elim
  | some sink =>
    cases sink' with
    | none => cases sink <;> exact h.elim
    | some sink' =>
      cases sink <;> cases sink' <;> try exact h.elim
      case memory content room content' room' =>
        obtain rfl : room = room' := h
        rcases room with _ | _ | room <;> exact ⟨rfl, rfl⟩
      case closed => exact ⟨rfl, h⟩
      case file place place' => exact ⟨rfl, h⟩

end World

namespace StatusLog

variable {s t : StatusLog} {v w : World}

theorem append_sameRoom (hs : s.suppressed = t.suppressed) (h : v.SameRoom w) (line line' : Text) :
    (s.append line v).problem = (t.append line' w).problem ∧
      (s.append line v).world.SameRoom (t.append line' w).world := by
  unfold append
  rw [hs]
  cases t.suppressed with
  | true => exact ⟨rfl, h⟩
  | false =>
    have hnoted : (v.note [⟨.info, Log.Channel.status, line⟩]).SameRoom
        (w.note [⟨.info, Log.Channel.status, line'⟩]) := h
    have hsend := hnoted.send (line ++ ['\n']) (line' ++ ['\n'])
    rw [if_neg (by simp), if_neg (by simp)]
    generalize (v.note _).send _ = sent at hsend ⊢
    generalize (w.note _).send _ = sent' at hsend ⊢
    obtain ⟨v', answer⟩ := sent
    obtain ⟨w', answer'⟩ := sent'
    obtain ⟨hanswer, hworld⟩ := hsend
    obtain rfl : answer = answer' := hanswer
    cases answer <;> exact ⟨rfl, hworld⟩

theorem appendAll_not_located (s : StatusLog) (lines : List Text) (w : World) :
    ∀ problem, (s.appendAll lines w).problem = some problem →
      ¬ (Failure.problem problem).IsLocated := by
  intro problem hproblem
  cases hs : s.suppressed with
  | true =>
    rw [appendAll_of_suppressed hs] at hproblem
    cases hproblem
  | false =>
    obtain ⟨reason, rfl⟩ := (appendAll_reports hs lines w).unwritten problem hproblem
    rintro ⟨_, _, _, ⟨⟩⟩

/-- Whether a sink fails does not depend on what the lines say. -/
theorem appendAll_sameRoom (hs : s.suppressed = t.suppressed) (h : v.SameRoom w)
    {lines lines' : List Text} (hlength : lines.length = lines'.length) :
    (s.appendAll lines v).problem = (t.appendAll lines' w).problem := by
  induction lines generalizing lines' s t v w with
  | nil =>
    obtain rfl : lines' = [] := List.length_eq_zero_iff.mp hlength.symm
    rfl
  | cons line rest ih =>
    obtain ⟨line', rest', rfl⟩ : ∃ line' rest', lines' = line' :: rest' :=
      List.exists_cons_of_length_eq_add_one hlength.symm
    have happend := append_sameRoom hs h line line'
    have hs' : (s.append line v).status.suppressed = (t.append line' w).status.suppressed := by
      rw [append_suppressed, append_suppressed, hs]
    rw [appendAll, appendAll]
    generalize s.append line v = outcome at happend hs' ⊢
    generalize t.append line' w = outcome' at happend hs' ⊢
    obtain ⟨s', v', problem⟩ := outcome
    obtain ⟨t', w', problem'⟩ := outcome'
    obtain ⟨hproblem, hworld⟩ := happend
    obtain rfl : problem = problem' := hproblem
    cases problem with
    | none => exact ih hs' hworld (Nat.succ.inj hlength)
    | some problem => rfl

end StatusLog

def Parameters.withFile (file : Text) (p : Parameters) : Parameters :=
  { p with copybookFile := some (.text file) }

namespace ReaderConfig

variable {files files' : Files.Tree} {p : Parameters} {file file' : Text}

def withSource (source : Source) (c : ReaderConfig) : ReaderConfig := { c with source := source }

theorem namesNoLine_checkScope (v : Option Json.Value) : NamesNoLine (checkScope v) := by
  rintro failure h ⟨text, file, line, rfl⟩
  unfold checkScope at h
  split at h
  · cases h
  · split at h <;> cases h

theorem namesNoLine_checkFile (files : Files.Tree) (v : Option Json.Value) :
    NamesNoLine (checkFile files v) := by
  unfold checkFile
  split
  · exact .error (by rintro ⟨_, _, _, ⟨⟩⟩)
  · refine .bind ?_ fun found => .bind ?_ fun node => ?_
    · unfold pathOf
      split
      · exact .ok _
      · exact .error (Failure.fault_not_located _)
    · unfold lookAt
      rintro failure h ⟨text, file, line, rfl⟩
      cases hlook : files.look found.2 <;> simp [hlook] at h
    · split
      · exact .error (by rintro ⟨_, _, _, ⟨⟩⟩)
      · exact .error (by rintro ⟨_, _, _, ⟨⟩⟩)
      · exact .ok _

theorem namesNoLine_checkPrefix (v : Option Json.Value) : NamesNoLine (checkPrefix v) := by
  rintro failure h ⟨text, file, line, rfl⟩
  unfold checkPrefix at h
  split at h
  · cases h
  · split at h
    · cases h
    · split at h <;> cases h

theorem namesNoLine_checkRules (argument : Option RuleArgument) :
    NamesNoLine (checkRules argument) := by
  rintro failure h ⟨text, file, line, rfl⟩
  unfold checkRules at h
  split at h <;> cases h

theorem namesNoLine_checkCase (v : Option Json.Value) : NamesNoLine (checkCase v) := by
  rintro failure h ⟨text, file, line, rfl⟩
  unfold checkCase at h
  split at h
  · cases h
  · split at h <;> cases h

theorem namesNoLine_checkSorting (v : Option Json.Value) : NamesNoLine (checkSorting v) := by
  rintro failure h ⟨text, file, line, rfl⟩
  unfold checkSorting at h
  split at h
  · cases h
  · cases h
  · split at h
    · cases h
    · split at h
      · cases h
      · split at h <;> cases h

theorem namesNoLine_ofParameters (files : Files.Tree)
    (hscope : checkScope p.scope ≠ .ok .directory) : NamesNoLine (ofParameters files p) := by
  have hsource : NamesNoLine (checkSource files p) := by
    unfold checkSource
    cases hchecked : checkScope p.scope with
    | error failure => exact .error (namesNoLine_checkScope _ failure hchecked)
    | ok scope =>
      cases scope with
      | directory => exact absurd hchecked hscope
      | copybook => exact (namesNoLine_checkFile files p.copybookFile).bind fun _ => .ok _
  refine hsource.bind fun _ => ?_
  refine (namesNoLine_checkPrefix p.namespacePrefix).bind fun _ => ?_
  refine (namesNoLine_checkRules p.ruleStore).bind fun _ => ?_
  refine (namesNoLine_checkCase p.case).bind fun _ => ?_
  exact (namesNoLine_checkSorting p.sortMembers).bind fun _ => .ok _

theorem checkFile_withFile {bytes : Bytes} (hread : files.read (Path.ofText file) = .ok bytes) :
    checkFile files (some (.text file)) = .ok (Path.ofText file) := by
  simp [checkFile, Parameters.given, pathOf, lookAt, Files.Tree.look_of_read hread, bind,
    Except.bind]

theorem source_withFile (hscope : checkScope p.scope ≠ .ok .directory) {bytes : Bytes}
    (hread : files.read (Path.ofText file) = .ok bytes) {config : ReaderConfig}
    (h : ofParameters files (p.withFile file) = .ok config) :
    config.source = .copybook (Path.ofText file) := by
  obtain ⟨scope, hchecked, hplace⟩ := bind_eq_ok_iff.mp (ofParameters_checks h).1
  cases scope with
  | directory => exact absurd hchecked hscope
  | copybook =>
    dsimp only [Parameters.withFile] at hplace
    rw [checkFile_withFile hread] at hplace
    exact (Except.ok.inj hplace).symm

theorem ofParameters_withFile (hscope : checkScope p.scope ≠ .ok .directory) {bytes bytes' : Bytes}
    (hread : files.read (Path.ofText file) = .ok bytes)
    (hread' : files'.read (Path.ofText file') = .ok bytes') :
    ofParameters files' (p.withFile file') =
      (ofParameters files (p.withFile file)).map (withSource (.copybook (Path.ofText file'))) := by
  unfold ofParameters checkSource
  dsimp only [Parameters.withFile]
  rw [checkFile_withFile hread, checkFile_withFile hread']
  cases hchecked : checkScope p.scope with
  | error failure => rfl
  | ok scope =>
    cases scope with
    | directory => exact absurd hchecked hscope
    | copybook =>
      cases checkPrefix p.namespacePrefix with
      | error failure => rfl
      | ok namespacePrefix =>
        cases checkRules p.ruleStore with
        | error failure => rfl
        | ok rules =>
          cases checkCase p.case with
          | error failure => rfl
          | ok mode => cases checkSorting p.sortMembers <;> rfl

end ReaderConfig

namespace Reader

variable {r : Reader} {v w : World} {p : Parameters} {config : ReaderConfig} {path path' : Path}
  {lines lines' : List Text} {file file' : Text}

/-- A copybook that is there, and that is decoded to some lines when it is opened. -/
structure Decodes (r : Reader) (w : World) (path : Path) (encoding : Json.Value)
    (lines : List Text) : Prop where
  there : ∃ bytes, w.files.read path = .ok bytes
  opened : ∀ files, r.announced w path = .ok files → ∃ opened,
    openCopybook files path encoding = .ok opened ∧
      (Encoding.deliver opened.2 opened.1).lines = lines ∧
      (Encoding.deliver opened.2 opened.1).failure = none

theorem Decodes.note {encoding : Json.Value} (h : r.Decodes w path encoding lines)
    (records : List Log.Record) : r.Decodes (w.note records) path encoding lines := by
  refine ⟨h.there, fun files hfiles => h.opened files ?_⟩
  rwa [announced_agrees rfl (w.agrees_note records)] at hfiles

theorem decodes_of_apart {encoding : Json.Value} {opened : Bytes × Encoding.Decoder}
    (hapart : w.IsApart path) (hopen : openCopybook w.files path encoding = .ok opened)
    (hlines : (Encoding.deliver opened.2 opened.1).lines = lines)
    (hfailure : (Encoding.deliver opened.2 opened.1).failure = none) :
    r.Decodes w path encoding lines := by
  refine ⟨read_of_openCopybook hopen, fun files hfiles => ⟨opened, ?_, hlines, hfailure⟩⟩
  rw [openCopybook_congr (announced_apart hapart hfiles), hopen]

/-- Results of reading two copybooks: the same object but for its name and its source, or the same
failure but for the name of the copybook and the line. -/
inductive Alike (lines lines' : List Text) (path path' : Path) :
    Except Failure (Option DataObject) → Except Failure (Option DataObject) → Prop
  | object (o : DataObject) (mode : CaseMode) : Alike lines lines' path path'
      (.ok (some { o with name := mode.convert path.name, source := path.toText }))
      (.ok (some { o with name := mode.convert path'.name, source := path'.toText }))
  | failure {f f' : Failure} : f.Alike (Counterparts lines lines') path.name path'.name f' →
      Alike lines lines' path path' (.error f) (.error f')

theorem announced_sameRoom (hroom : v.SameRoom w) (path path' : Path) :
    (∃ files files', r.announced v path = .ok files ∧ r.announced w path' = .ok files') ∨
      ∃ problem, r.announced v path = .error problem ∧ r.announced w path' = .error problem ∧
        ¬ (Failure.problem problem).IsLocated := by
  have hbanner : (r.status.appendAll
      [StatusLog.separator, "Importing " ++ path.name, StatusLog.separator] v).problem =
      (r.status.appendAll
        [StatusLog.separator, "Importing " ++ path'.name, StatusLog.separator] w).problem :=
    StatusLog.appendAll_sameRoom rfl hroom rfl
  have hspeaks := StatusLog.appendAll_not_located r.status
    [StatusLog.separator, "Importing " ++ path.name, StatusLog.separator] v
  unfold announced StatusLog.banner
  generalize r.status.appendAll _ v = outcome at hbanner hspeaks ⊢
  generalize r.status.appendAll _ w = outcome' at hbanner ⊢
  obtain ⟨status, v', problem⟩ := outcome
  obtain ⟨status', w', problem'⟩ := outcome'
  obtain rfl : problem = problem' := hbanner
  cases problem with
  | none => exact .inl ⟨_, _, rfl, rfl⟩
  | some problem => exact .inr ⟨problem, rfl, rfl, hspeaks problem rfl⟩

theorem produce_alike (hroom : v.SameRoom w) (hparent : path.parent.name = path'.parent.name)
    (hdecodes : r.Decodes v path config.encoding lines)
    (hdecodes' : r.Decodes w path' config.encoding lines') (hsame : SameEssence lines lines')
    (source : Source) :
    Alike lines lines' path path' ((r.produce v config path).map some)
      ((r.produce w (config.withSource source) path').map some) := by
  have hnames : r.namespaceOf (config.withSource source) path' = r.namespaceOf config path := by
    simp only [namespaceOf, ReaderConfig.withSource, hparent]
  unfold produce
  rw [hnames]
  cases (r.namespaceOf config path).result with
  | error failure =>
    refine .failure (.equal ?_)
    rintro ⟨text, file, line, hlocated⟩
    exact Harvest.toFailure_not_malformed failure hlocated
  | ok nameSpace =>
    obtain ⟨files, files', hfiles, hfiles'⟩ | ⟨problem, hproblem, hproblem', hspeaks⟩ :=
      announced_sameRoom (r := r) hroom path path'
    · obtain ⟨opened, hopened, hlines, hends⟩ := hdecodes.opened files hfiles
      obtain ⟨opened', hopened', hlines', hends'⟩ := hdecodes'.opened files' hfiles'
      have hencoding : (config.withSource source).encoding = config.encoding := rfl
      simp only [hfiles, hfiles', hencoding, hopened, hopened', mapError_ok, bind, Except.bind,
        harvested, hlines, hlines', hends, hends', Option.map_none]
      have hharvest := Harvest.ofLines_alike path.name path'.name (r.mapping config)
        config.caseMode hsame
      have hmapping : r.mapping (config.withSource source) = r.mapping config := rfl
      have hmode : (config.withSource source).caseMode = config.caseMode := rfl
      rw [hmapping, hmode]
      generalize Harvest.ofLines _ _ path.name lines none = outcome at hharvest ⊢
      generalize Harvest.ofLines _ _ path'.name lines' none = outcome' at hharvest ⊢
      obtain ⟨h, failure⟩ := outcome
      obtain ⟨h', failure'⟩ := outcome'
      obtain ⟨hattributes, hfailure⟩ := hharvest
      cases hfailure with
      | some hfailure => exact .failure hfailure
      | none =>
        dsimp only at hattributes ⊢
        rw [hattributes]
        exact .object { name := [], nameSpace := config.caseMode.convert (nameSpace.getD []),
                        attributes := h'.attributes, source := [] } config.caseMode
    · simp only [hproblem, hproblem', bind, Except.bind, mapError_ok]
      exact .failure (.equal hspeaks)

/-- The first read of a reader after it has been given parameters. -/
def configuredRead (r : Reader) (p : Parameters) (w : World) : Except Failure (Option DataObject) :=
  let o := r.init p w
  o.result.bind fun _ => (o.reader.read o.world).result

theorem configuredRead_ok (hconfig : ReaderConfig.ofParameters w.files p = .ok config)
    (hsource : config.source = .copybook path) : ∃ records, r.configuredRead p w =
      (r.produce (w.note records) config path).map some := by
  obtain ⟨records, hinit⟩ := init_copybook r hconfig hsource
  refine ⟨records, ?_⟩
  have hserves : Serves r config ⟨.copybook, [path], 0⟩ { r with
      phase := .configured, config := some config, members := some ⟨.copybook, [path], 0⟩ } :=
    ⟨.inl rfl, rfl, rfl, rfl, rfl⟩
  unfold configuredRead
  rw [hinit]
  exact hserves.read_result rfl (w.note records)

theorem configuredRead_error {failure : Failure}
    (hconfig : ReaderConfig.ofParameters w.files p = .error failure) :
    r.configuredRead p w = .error failure := by
  unfold configuredRead
  dsimp only
  rw [init_error hconfig]
  rfl

/-- Whatever stands in lines and columns that say nothing, a reader comes to the same. -/
theorem read_essence (hscope : ReaderConfig.checkScope p.scope ≠ .ok .directory)
    (hsink : v.sink = w.sink)
    (hparent : (Path.ofText file).parent.name = (Path.ofText file').parent.name)
    (hdecodes : r.Decodes v (Path.ofText file) (ReaderConfig.encodingOf p.encoding) lines)
    (hdecodes' : r.Decodes w (Path.ofText file') (ReaderConfig.encodingOf p.encoding) lines')
    (hsame : SameEssence lines lines') :
    Alike lines lines' (Path.ofText file) (Path.ofText file')
      (r.configuredRead (p.withFile file) v) (r.configuredRead (p.withFile file') w) := by
  obtain ⟨bytes, hread⟩ := hdecodes.there
  obtain ⟨bytes', hread'⟩ := hdecodes'.there
  have hconfigured := ReaderConfig.ofParameters_withFile hscope hread hread'
  cases hconfig : ReaderConfig.ofParameters v.files (p.withFile file) with
  | error failure =>
    rw [hconfig] at hconfigured
    rw [configuredRead_error hconfig, configuredRead_error hconfigured]
    exact .failure (.equal (ReaderConfig.namesNoLine_ofParameters (p := p.withFile file) v.files
      hscope failure hconfig))
  | ok config =>
    rw [hconfig] at hconfigured
    have hencoding : config.encoding = ReaderConfig.encodingOf p.encoding :=
      (ofParameters_spec hconfig).2
    obtain ⟨records, hfirst⟩ := configuredRead_ok (r := r) hconfig
      (ReaderConfig.source_withFile hscope hread hconfig)
    obtain ⟨records', hsecond⟩ := configuredRead_ok (r := r) hconfigured rfl
    rw [← hencoding] at hdecodes hdecodes'
    rw [hfirst, hsecond]
    have hroom : (v.note records).SameRoom (w.note records') := World.sameRoom_of_eq hsink
    exact produce_alike hroom hparent (hdecodes.note records) (hdecodes'.note records') hsame _

def plainLines : List Text :=
  ["       05 A PIC X VALUE 'AB\n", "      -    'C'.\n", "       05 B PIC X(."]

/-- The same with numbers, a comment inside a literal and an empty line. -/
def numberedLines : List Text :=
  ["000100 05 A PIC X VALUE 'AB\n", "000200* NOTE\n", "000300-    'C'.\n", "\n",
    "000400 05 B PIC X(."]

def linesWorld : World :=
  directoryWorld [("A", plainLines.flatten), ("B", numberedLines.flatten)]

/-- The same sentence is at fault, which begins on line 3 of one copybook and on line 5 of the
other. -/
theorem read_essence_numbered :
    let p : Parameters := { directoryParameters with scope := some "copybook" }
    ReaderConfig.checkScope p.scope ≠ .ok .directory ∧
      (Path.ofText "D/A").parent.name = (Path.ofText "D/B").parent.name ∧
      new.Decodes linesWorld (Path.ofText "D/A") (ReaderConfig.encodingOf p.encoding) plainLines ∧
      new.Decodes linesWorld (Path.ofText "D/B") (ReaderConfig.encodingOf p.encoding)
        numberedLines ∧
      SameEssence plainLines numberedLines ∧
      Alike plainLines numberedLines (Path.ofText "D/A") (Path.ofText "D/B")
        (new.configuredRead (p.withFile "D/A") linesWorld)
        (new.configuredRead (p.withFile "D/B") linesWorld) ∧
      new.configuredRead (p.withFile "D/A") linesWorld =
        .error (.problem (.malformed "invalid picture 'X(': missing ')'" (some "A") 3)) ∧
      new.configuredRead (p.withFile "D/B") linesWorld =
        .error (.problem (.malformed "invalid picture 'X(': missing ')'" (some "B") 5)) := by
  intro p
  have hscope : ReaderConfig.checkScope p.scope ≠ .ok .directory := by decide +kernel
  have hparent : (Path.ofText "D/A").parent.name = (Path.ofText "D/B").parent.name := by
    decide +kernel
  have hdecodes : new.Decodes linesWorld (Path.ofText "D/A") (ReaderConfig.encodingOf p.encoding)
      plainLines :=
    decodes_of_apart (by rintro place ⟨⟩) rfl (by decide +kernel) (by decide +kernel)
  have hdecodes' : new.Decodes linesWorld (Path.ofText "D/B") (ReaderConfig.encodingOf p.encoding)
      numberedLines :=
    decodes_of_apart (by rintro place ⟨⟩) rfl (by decide +kernel) (by decide +kernel)
  have hsame : SameEssence plainLines numberedLines := by
    unfold SameEssence
    decide +kernel
  exact ⟨hscope, hparent, hdecodes, hdecodes', hsame,
    read_essence hscope rfl hparent hdecodes hdecodes' hsame, by decide +kernel, by decide +kernel⟩

end Reader
end Copybook
