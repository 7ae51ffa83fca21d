import Copybook.Proofs.Reader
import Copybook.Proofs.Repetition
import Copybook.Proofs.Rule

/-!
Which failures a reader contains. It answers every read with a value or with a problem, after which
it has failed for good, as long as no member makes it handle a number, a name of an encoding or a
content that its conversions do not take. -/
namespace Copybook

namespace Harvest

/-- How a harvest ends with a fault: the counts of a picture go beyond the limits, or the rules for
an item do so, or the bytes are refused for another reason than what they are. Nothing before has made
it stop. -/
inductive Breaks (mapping : Mapping) (mode : CaseMode) (delivery : Encoding.Delivery) : Prop
  | picture {before after : List Sentence} {s : Sentence} {entries : List Entry} :
      delivered delivery.lines delivery.failure = before ++ s :: after →
      CanTake mapping mode before entries → Entry.Overcounts s.text → Breaks mapping mode delivery
  | rule {before after : List Sentence} {s : Sentence} {entries : List Entry} {e : Entry} :
      delivered delivery.lines delivery.failure = before ++ s :: after →
      CanTake mapping mode before entries → Reads s e → isKept e = true → TypeOverflows mapping e →
      Breaks mapping mode delivery
  | bytes {entries : List Entry} {failure : Encoding.Failure} :
      CanTake mapping mode (delivered delivery.lines delivery.failure) entries →
      delivery.failure = some failure → (∀ fault, failure ≠ .undecodable fault) →
      Breaks mapping mode delivery

theorem refuses_fault_iff {mapping : Mapping} {mode : CaseMode} {copybook : Text}
    {entries : List Entry} {s : Sentence} (hs : IsTextual mapping) :
    (∃ fault, Refuses mapping mode copybook entries s (.fault fault)) ↔
      Entry.Overcounts s.text ∨ ∃ e, Reads s e ∧ isKept e = true ∧ TypeOverflows mapping e := by
  rw [← Entry.read_fault_iff]
  constructor
  · rintro ⟨fault, h⟩
    generalize hf : Failure.fault fault = failure at h
    cases h with
    | @unreadable failure _ he =>
      refine .inl ⟨failure, he, ?_⟩
      rintro flaw rfl
      cases hf
    | orphan => cases hf
    | @unmapped e _ he hk hm =>
      exact .inr ⟨e, he, hk, (attributeOf_fault_iff hs mode e 1).mp ⟨fault, hf ▸ hm⟩⟩
  · rintro (⟨failure, he, hfault⟩ | ⟨e, he, hk, hover⟩)
    · have ht : s.text ≠ [] := by
        intro ht
        rw [ht] at he
        exact hfault .emptyEntry (Except.error.inj he).symm
      have hrefuses : Refuses mapping mode copybook entries s
          (failure.toFailure (some copybook) s.line) := .unreadable ht he
      cases failure with
      | malformed flaw => exact absurd rfl (hfault flaw)
      | numeral problem => exact ⟨_, hrefuses⟩
      | repetition fault => exact ⟨_, hrefuses⟩
    · obtain ⟨fault, hm⟩ := (attributeOf_fault_iff hs mode e 1).mpr hover
      exact ⟨fault, .unmapped he hk hm⟩

end Harvest

namespace Reader

open Harvest

theorem readingFailure_fault_iff (path : Path) {failure : Encoding.Failure} :
    (∃ fault, readingFailure path failure = .fault fault) ↔
      ∀ fault, failure ≠ .undecodable fault := by
  cases failure <;> simp [readingFailure]

theorem delivered_map {α β : Type} (lines : List Text) (f : α → β) (broken : Option α) :
    delivered lines (broken.map f) = delivered lines broken := by
  cases broken <;> rfl

theorem harvested_fault_iff {r : Reader} {config : ReaderConfig} (hs : IsTextual (r.mapping config))
    (path : Path) (opened : Bytes × Encoding.Decoder) :
    (∃ fault, (r.harvested config path opened).2 = some (.fault fault)) ↔
      Breaks (r.mapping config) config.caseMode (Encoding.deliver opened.2 opened.1) := by
  unfold harvested
  generalize Encoding.deliver opened.2 opened.1 = delivery
  simp only [ofLines_eq_some_iff, delivered_map]
  constructor
  · rintro ⟨fault, ⟨before, s, after, entries, hcut, hcan, hrefuses⟩ | ⟨hbroken, entries, hcan⟩⟩
    · rcases (refuses_fault_iff hs).mp ⟨fault, hrefuses⟩ with hover | ⟨e, he, hk, hover⟩
      · exact .picture hcut hcan hover
      · exact .rule hcut hcan he hk hover
    · obtain ⟨failure, hfailure, hreading⟩ := Option.map_eq_some_iff.mp hbroken
      exact .bytes hcan hfailure ((readingFailure_fault_iff path).mp ⟨fault, hreading⟩)
  · rintro (⟨hcut, hcan, hover⟩ | ⟨hcut, hcan, he, hk, hover⟩ | ⟨hcan, hfailure, hkind⟩)
    · obtain ⟨fault, hrefuses⟩ := (refuses_fault_iff hs).mpr (.inl hover)
      exact ⟨fault, .inl ⟨_, _, _, _, hcut, hcan, hrefuses⟩⟩
    · obtain ⟨fault, hrefuses⟩ := (refuses_fault_iff hs).mpr (.inr ⟨_, he, hk, hover⟩)
      exact ⟨fault, .inl ⟨_, _, _, _, hcut, hcan, hrefuses⟩⟩
    · obtain ⟨fault, hreading⟩ := (readingFailure_fault_iff path).mpr hkind
      exact ⟨fault, .inr ⟨by rw [hfailure, Option.map_some, hreading], _, hcan⟩⟩

/-- Why opening a copybook fails otherwise than by a problem of the files. -/
inductive Unopenable (files : Files.Tree) (path : Path) (encoding : Text) : Prop
  | nullInName : encoding.contains '\x00' = true → Unopenable files path encoding
  | nullInPath : files.read path = .error .nullCharacter → Unopenable files path encoding
  | notAnEncoding {bytes : Bytes} {fault : Encoding.NameFault} : files.read path = .ok bytes →
      Encoding.decoderFor encoding = .error fault → Unopenable files path encoding

theorem openCopybook_fault_iff (files : Files.Tree) (path : Path) (encoding : Text) :
    (∃ fault, openCopybook files path (.text encoding) = .error (.fault fault)) ↔
      Unopenable files path encoding := by
  constructor
  · rintro ⟨fault, h⟩
    rw [openCopybook] at h
    split at h
    · exact .nullInName ‹_›
    · split at h
      · cases h
      · exact .nullInPath ‹_›
      · rename_i bytes hread
        split at h
        · exact .notAnEncoding hread ‹_›
        · cases h
  · rintro (hnull | hread | ⟨hread, hname⟩)
    · exact ⟨_, by rw [openCopybook, if_pos hnull]⟩
    all_goals
      by_cases hnull : encoding.contains '\x00' = true
      · exact ⟨_, by rw [openCopybook, if_pos hnull]⟩
      rw [openCopybook, if_neg hnull, hread]
    · exact ⟨_, rfl⟩
    · exact ⟨_, by rw [hname]⟩

/-- How a fault gets past a reader that takes up a member: from the rule for namespaces, from
opening the copybook, or from its content. -/
inductive Escapes (r : Reader) (w : World) (config : ReaderConfig) (path : Path) : Prop
  | nameSpace : r.typeMode = false → config.rules.Overflows "namespace" "name"
      [("prefix", config.namespacePrefix), ("schema", path.parent.name)] → Escapes r w config path
  | opening {nameSpace : Option Text} {files : Files.Tree} {encoding : Text} :
      (r.namespaceOf config path).result = .ok nameSpace → r.announced w path = .ok files →
      config.encoding = .text encoding → Unopenable files path encoding → Escapes r w config path
  | content {nameSpace : Option Text} {files : Files.Tree} {opened : Bytes × Encoding.Decoder} :
      (r.namespaceOf config path).result = .ok nameSpace → r.announced w path = .ok files →
      openCopybook files path config.encoding = .ok opened →
      Breaks (r.mapping config) config.caseMode (Encoding.deliver opened.2 opened.1) →
      Escapes r w config path

theorem namespaceOf_fault_iff {r : Reader} {config : ReaderConfig} (hs : config.rules.IsTextual)
    (path : Path) :
    (∃ failure fault, (r.namespaceOf config path).result = .error failure ∧
      failure.toFailure = .fault fault) ↔ r.typeMode = false ∧ config.rules.Overflows "namespace"
        "name" [("prefix", config.namespacePrefix), ("schema", path.parent.name)] := by
  rw [← Rule.resolve_fault_iff _ _ _ (some config.namespacePrefix) hs, namespaceOf]
  cases r.typeMode <;> simp

theorem escapes_iff_of_announced {r : Reader} {w : World} {config : ReaderConfig} {path : Path}
    {nameSpace : Option Text} {files : Files.Tree} {encoding : Text}
    (hs : config.rules.IsTextual) (hencoding : config.encoding = .text encoding)
    (hname : (r.namespaceOf config path).result = .ok nameSpace)
    (hannounced : r.announced w path = .ok files) :
    Escapes r w config path ↔ Unopenable files path encoding ∨
      ∃ opened, openCopybook files path config.encoding = .ok opened ∧
        Breaks (r.mapping config) config.caseMode (Encoding.deliver opened.2 opened.1) := by
  constructor
  · rintro (⟨hmode, hover⟩ | ⟨-, hfiles, htext, hopen⟩ | ⟨-, hfiles, hopen, hbreaks⟩)
    · obtain ⟨failure, fault, herror, -⟩ := (namespaceOf_fault_iff hs path).mpr ⟨hmode, hover⟩
      simp [hname] at herror
    · obtain rfl := Except.ok.inj (hannounced.symm.trans hfiles)
      obtain rfl := Json.Value.text.inj (hencoding.symm.trans htext)
      exact .inl hopen
    · obtain rfl := Except.ok.inj (hannounced.symm.trans hfiles)
      exact .inr ⟨_, hopen, hbreaks⟩
  · rintro (hopen | ⟨opened, hopen, hbreaks⟩)
    · exact .opening hname hannounced hencoding hopen
    · exact .content hname hannounced hopen hbreaks

theorem produce_fault_iff {r : Reader} {config : ReaderConfig} {encoding : Text}
    (hs : config.rules.IsTextual) (hencoding : config.encoding = .text encoding) (w : World)
    (path : Path) :
    (∃ fault, r.produce w config path = .error (.fault fault)) ↔ Escapes r w config path := by
  have hname := namespaceOf_fault_iff (r := r) hs path
  have hmapping : IsTextual (r.mapping config) := by
    unfold mapping
    split
    · trivial
    · exact hs
  unfold produce
  cases hresult : (r.namespaceOf config path).result with
  | error failure =>
    constructor
    · rintro ⟨fault, h⟩
      obtain ⟨hmode, hover⟩ := hname.mp ⟨failure, fault, hresult, Except.error.inj h⟩
      exact .nameSpace hmode hover
    · rintro (⟨hmode, hover⟩ | ⟨hok, -⟩ | ⟨hok, -⟩)
      · obtain ⟨failure', fault, herror, hfault⟩ := hname.mpr ⟨hmode, hover⟩
        obtain rfl := Except.error.inj (hresult.symm.trans herror)
        exact ⟨fault, congrArg Except.error hfault⟩
      all_goals simp [hresult] at hok
  | ok nameSpace =>
    cases hannounced : r.announced w path with
    | error problem =>
      constructor
      · rintro ⟨fault, h⟩
        cases h
      · rintro (⟨hmode, hover⟩ | ⟨-, hfiles, -⟩ | ⟨-, hfiles, -⟩)
        · obtain ⟨failure, fault, herror, -⟩ := hname.mpr ⟨hmode, hover⟩
          simp [hresult] at herror
        all_goals simp [hannounced] at hfiles
    | ok files =>
      rw [escapes_iff_of_announced hs hencoding hresult hannounced, ← openCopybook_fault_iff,
        ← hencoding]
      simp only [mapError_ok, bind, Except.bind]
      cases hopen : openCopybook files path config.encoding with
      | error failure => simp
      | ok opened =>
        simp only [Except.ok.injEq, reduceCtorEq, exists_false, false_or, exists_eq_left',
          ← harvested_fault_iff hmapping path opened]
        generalize r.harvested config path opened = outcome
        obtain ⟨h, failure⟩ := outcome
        cases failure <;> simp

def reads (r : Reader) : List World → List (Outcome (Option DataObject))
  | [] => []
  | w :: rest => r.read w :: (r.read w).reader.reads rest

structure Contained (outcomes : List (Outcome (Option DataObject))) : Prop where
  answers : ∀ o ∈ outcomes, (∃ value, o.result = .ok value) ∨
    ∃ problem, o.result = .error (.problem problem) ∧ o.reader.phase = .failed
  lasting : outcomes.Pairwise fun o later =>
    (∃ failure, o.result = .error failure) → later.result ≠ .ok none

theorem contained_cons_iff (o : Outcome (Option DataObject))
    (rest : List (Outcome (Option DataObject))) :
    Contained (o :: rest) ↔ ((∃ value, o.result = .ok value) ∨
      ∃ problem, o.result = .error (.problem problem) ∧ o.reader.phase = .failed) ∧
      (∀ later ∈ rest, (∃ failure, o.result = .error failure) → later.result ≠ .ok none) ∧
      Contained rest := by
  constructor
  · rintro ⟨hanswers, hlasting⟩
    obtain ⟨hfirst, hrest⟩ := List.pairwise_cons.mp hlasting
    exact ⟨hanswers o (by simp), hfirst, fun o ho => hanswers o (by simp [ho]), hrest⟩
  · rintro ⟨hanswer, hfirst, hanswers, hrest⟩
    exact ⟨List.forall_mem_cons.mpr ⟨hanswer, hanswers⟩, List.pairwise_cons.mpr ⟨hfirst, hrest⟩⟩

theorem contained_done {r : Reader} (h : r.phase = .done) (worlds : List World) :
    Contained (r.reads worlds) := by
  induction worlds with
  | nil => exact ⟨by simp [reads], .nil⟩
  | cons w rest ih =>
    rw [reads, read_done h, contained_cons_iff]
    exact ⟨.inl ⟨none, rfl⟩, by simp, ih⟩

theorem reads_failed {r : Reader} {problem : Problem} (h : r.phase = .failed)
    (hproblem : r.problem = some problem) (worlds : List World) :
    (∀ o ∈ r.reads worlds, o.result = .error (.problem problem)) ∧ Contained (r.reads worlds) := by
  induction worlds with
  | nil => exact ⟨by simp [reads], by simp [reads], .nil⟩
  | cons w rest ih =>
    obtain ⟨hall, hcontained⟩ := ih
    rw [reads, read_failed h hproblem, contained_cons_iff]
    refine ⟨List.forall_mem_cons.mpr ⟨rfl, hall⟩, .inr ⟨problem, rfl, h⟩, ?_, hcontained⟩
    intro later hlater _
    rw [hall later hlater]
    simp

/-- Whether a fault escapes from one of the reads, when all reads before it give values. -/
def Leaks (start : Reader) (config : ReaderConfig) (members : Members) (r : Reader)
    (worlds : List World) : Prop :=
  ∃ i w path, worlds[i]? = some w ∧ members.all[members.taken + i]? = some path ∧
    (∀ o ∈ (r.reads worlds).take i, ∃ value, o.result = .ok value) ∧ Escapes start w config path

section

variable {start r : Reader} {config : ReaderConfig} {members members' : Members} {w : World}
  {path : Path} {rest : List World}

theorem leaks_cons_iff (hnext : members.next = (some path, members')) :
    Leaks start config members r (w :: rest) ↔ Escapes start w config path ∨
      (∃ value, (r.read w).result = .ok value) ∧
        Leaks start config members' (r.read w).reader rest := by
  unfold Members.next at hnext
  split at hnext
  · rename_i path' hpath
    obtain ⟨rfl, rfl⟩ : path' = path ∧ _ = members' := by simpa using hnext
    have hshift : ∀ i, members.taken + (i + 1) = members.taken + 1 + i := by omega
    constructor
    · rintro ⟨i, v, place, hv, hplace, hbefore, hescapes⟩
      cases i with
      | zero =>
        obtain rfl : w = v := by simpa using hv
        obtain rfl : path' = place := by simpa [hpath] using hplace
        exact .inl hescapes
      | succ i =>
        rw [reads, List.take_succ_cons, List.forall_mem_cons] at hbefore
        rw [hshift] at hplace
        exact .inr ⟨hbefore.1, i, v, place, by simpa using hv, hplace, hbefore.2, hescapes⟩
    · rintro (hescapes | ⟨hvalue, i, v, place, hv, hplace, hbefore, hescapes⟩)
      · exact ⟨0, w, path', rfl, hpath, by simp, hescapes⟩
      · refine ⟨i + 1, v, place, by simpa using hv, by rw [hshift]; exact hplace, ?_, hescapes⟩
        rw [reads, List.take_succ_cons, List.forall_mem_cons]
        exact ⟨hvalue, hbefore⟩
  · simp at hnext

theorem not_leaks_of_next (hnext : members.next.1 = none) (worlds : List World) :
    ¬ Leaks start config members r worlds := by
  rintro ⟨i, v, path, -, hpath, -⟩
  have hlength : members.all.length ≤ members.taken := by
    unfold Members.next at hnext
    split at hnext
    · simp at hnext
    · exact List.getElem?_eq_none_iff.mp ‹_›
  rw [List.getElem?_eq_none (Nat.le_add_right_of_le hlength)] at hpath
  cases hpath

variable {encoding : Text} (hs : config.rules.IsTextual)
  (hencoding : config.encoding = .text encoding)
include hs hencoding

theorem Serves.contained_iff (h : Serves start config members r) (worlds : List World) :
    Contained (r.reads worlds) ↔ ¬ Leaks start config members r worlds := by
  induction worlds generalizing members r with
  | nil =>
    constructor
    · rintro - ⟨i, w, path, hw, -⟩
      simp at hw
    · intro _
      exact ⟨by simp [reads], .nil⟩
  | cons w rest ih =>
    cases hpath : members.next.1 with
    | none =>
      refine ⟨fun _ => not_leaks_of_next hpath _, fun _ => ?_⟩
      rw [reads, h.read_last hpath, contained_cons_iff]
      exact ⟨.inl ⟨none, rfl⟩, by simp, contained_done rfl rest⟩
    | some path =>
      have hnext : members.next = (some path, members.next.2) := Prod.ext hpath rfl
      have hspec := h.read_spec hnext w
      have hfault := produce_fault_iff (r := start) hs hencoding w path
      rw [leaks_cons_iff hnext, reads, contained_cons_iff]
      cases hproduce : start.produce w config path with
      | ok object =>
        rw [hproduce] at hspec hfault
        obtain ⟨hresult, hserves⟩ := hspec
        rw [ih hserves, ← hfault]
        simp [hresult]
      | error failure =>
        cases failure with
        | problem problem =>
          rw [hproduce] at hspec hfault
          obtain ⟨hresult, hphase, hproblem⟩ := hspec
          obtain ⟨hall, hcontained⟩ := reads_failed hphase hproblem rest
          have hlasting : ∀ later ∈ (r.read w).reader.reads rest, later.result ≠ .ok none := by
            intro later hlater
            simp [hall later hlater]
          rw [← hfault]
          constructor
          · intro _
            simp [hresult]
          · intro _
            exact ⟨.inr ⟨problem, hresult, hphase⟩, fun later hlater _ => hlasting later hlater,
              hcontained⟩
        | fault fault =>
          -- the reader still stands at reading, so nothing is known of the reads that follow
          rw [hproduce] at hspec hfault
          have hescapes : Escapes start w config path := hfault.mp ⟨fault, rfl⟩
          simp [hspec, hescapes]

end

/-- The reads of a reader that has accepted its parameters return values, or fail for good with a
problem, exactly when no fault escapes from a member that they reach. -/
theorem init_contained_iff {r : Reader} {p : Parameters} {w : World}
    (hinit : (r.init p w).result = .ok ())
    (hencoding : ∀ v, p.encoding = some v → ∃ name, v = .text name)
    (hrules : ∀ s, p.ruleStore = some (.store s) → s.IsTextual) (worlds : List World) :
    ∃ config, ReaderConfig.ofParameters w.files p = .ok config ∧
      (Contained ((r.init p w).reader.reads worlds) ↔
        ¬ Leaks (r.init p w).reader config (Members.ofConfig w.files config) (r.init p w).reader
          worlds) := by
  obtain ⟨config, hconfig, hserves⟩ := init_spec hinit
  obtain ⟨hstore, hname⟩ := ofParameters_spec hconfig
  obtain ⟨encoding, htext⟩ : ∃ encoding, config.encoding = .text encoding := by
    rw [hname]
    unfold ReaderConfig.encodingOf
    split
    · split
      · exact hencoding _ ‹_›
      · exact ⟨_, rfl⟩
    · exact ⟨_, rfl⟩
  exact ⟨config, hconfig, hserves.contained_iff (hrules _ hstore) htext worlds⟩

/-- The picture repeats its symbol as often as a superscript two says. -/
def superscriptWorld : World := sampleWorld "       05 A PIC 9(\u00B2)."

def superscriptReader : Reader := (new.init sampleParameters superscriptWorld).reader

/-- The fault of reading the superscript as a number escapes, and the next read returns nothing. -/
theorem init_contained_iff_superscript :
    (new.init sampleParameters superscriptWorld).result = .ok () ∧
      (superscriptReader.reads [superscriptWorld, superscriptWorld]).map (·.result) =
        [.error (.fault (.numeral (.malformed ['\u00B2']))), .ok none] ∧
      ∃ config, ReaderConfig.ofParameters superscriptWorld.files sampleParameters = .ok config ∧
        Leaks superscriptReader config (Members.ofConfig superscriptWorld.files config)
          superscriptReader [superscriptWorld, superscriptWorld] := by
  have hinit : (new.init sampleParameters superscriptWorld).result = .ok () := by decide +kernel
  have hreads : (superscriptReader.reads [superscriptWorld, superscriptWorld]).map (·.result) =
      [.error (.fault (.numeral (.malformed ['\u00B2']))), .ok none] := by decide +kernel
  have hnot : ¬ Contained (superscriptReader.reads [superscriptWorld, superscriptWorld]) := by
    rintro ⟨hanswers, -⟩
    obtain ⟨o, ho, hresult⟩ := List.exists_of_mem_map (hreads ▸ List.mem_cons_self)
    rcases hanswers o ho with ⟨value, h⟩ | ⟨problem, h, -⟩ <;> simp [h] at hresult
  have hrules : ∀ s, sampleParameters.ruleStore = some (.store s) → s.IsTextual := by
    rintro s ⟨⟩ category name
    exact .inl rfl
  obtain ⟨config, hconfig, hiff⟩ := init_contained_iff hinit (by rintro v ⟨⟩) hrules
    [superscriptWorld, superscriptWorld]
  exact ⟨hinit, hreads, config, hconfig, by_contra fun h => hnot (hiff.mpr h)⟩

end Reader
end Copybook
