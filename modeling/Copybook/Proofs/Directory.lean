import Copybook.Proofs.Containment
import Copybook.Proofs.Status

/-!
Readers of directories. Taking up a member leaves nothing behind that the next one depends on, so
each member comes to what a reader of its own makes of it, and no file that is added later is
read. -/
namespace Copybook

/-- Parameters for a single member in place of its directory. -/
def Parameters.ofMember (p : Parameters) (path : Path) : Parameters :=
  { p with scope := some (.text Scope.copybook.word), copybookFile := some (.text path.toText) }

namespace ReaderConfig

variable {files files' : Files.Tree} {p : Parameters} {config : ReaderConfig}

theorem checkScope_copybook : checkScope (some (.text Scope.copybook.word)) = .ok .copybook := by
  decide +kernel

theorem ofParameters_ofMember {path : Path} {bytes : Bytes}
    (h : ofParameters files p = .ok config) (hpath : Path.ofText path.toText = path)
    (hread : files'.read path = .ok bytes) :
    ofParameters files' (p.ofMember path) = .ok { config with source := .copybook path } := by
  simp only [ofParameters, bind_eq_ok_iff] at h
  obtain ⟨source, -, namespacePrefix, hspace, rules, hrules, caseMode, hcase, sortMembers, hsort,
    hconfig⟩ := h
  obtain rfl := Except.ok.inj hconfig
  have hfile : checkFile files' (some (.text path.toText)) = .ok path := by
    simp [checkFile, Parameters.given, pathOf, lookAt, hpath, Files.Tree.look_of_read hread,
      bind, Except.bind]
  have hsource : checkSource files' (p.ofMember path) = .ok (.copybook path) := by
    rw [checkSource, Parameters.ofMember, checkScope_copybook]
    simp [hfile, bind, Except.bind, pure, Except.pure]
  rw [ofParameters, hsource]
  dsimp only [Parameters.ofMember, bind, Except.bind]
  rw [hspace, hrules, hcase, hsort]
  rfl

theorem pathOf_isNormal {v : Json.Value} {written : Text} {path : Path}
    (h : pathOf v = .ok (written, path)) : path.IsNormal := by
  cases v <;> simp only [pathOf, reduceCtorEq] at h
  obtain ⟨-, rfl⟩ := Prod.mk.inj (Except.ok.inj h)
  exact Path.isNormal_ofText _

theorem checkDirectory_isNormal {v : Option Json.Value} {path : Path}
    (h : checkDirectory files v = .ok path) : path.IsNormal := by
  unfold checkDirectory at h
  split at h
  · cases h
  · obtain ⟨⟨written, found⟩, hfound, h⟩ := bind_eq_ok_iff.mp h
    obtain ⟨node, -, h⟩ := bind_eq_ok_iff.mp h
    split at h
    · cases h
    · cases h
    · obtain rfl := Except.ok.inj h
      exact pathOf_isNormal hfound

theorem isNormal_of_directory {path : Path} (h : ofParameters files p = .ok config)
    (hsource : config.source = .directory path) : path.IsNormal := by
  simp only [ofParameters, bind_eq_ok_iff] at h
  obtain ⟨source, hchecked, namespacePrefix, -, rules, -, caseMode, -, sortMembers, -,
    hconfig⟩ := h
  obtain rfl := Except.ok.inj hconfig
  obtain rfl : source = .directory path := hsource
  obtain ⟨scope, -, hchecked⟩ := bind_eq_ok_iff.mp hchecked
  cases scope with
  | copybook =>
    obtain ⟨place, -, hplace⟩ := bind_eq_ok_iff.mp hchecked
    cases hplace
  | directory =>
    obtain ⟨place, hplace, heq⟩ := bind_eq_ok_iff.mp hchecked
    obtain rfl := Source.directory.inj (Except.ok.inj heq)
    exact checkDirectory_isNormal hplace

theorem source_of_scope (h : config.scope = .directory) :
    ∃ path, config.source = .directory path := by
  unfold scope at h
  split at h
  · cases h
  · exact ⟨_, ‹_›⟩

end ReaderConfig

namespace Members

variable {files : Files.Tree} {config : ReaderConfig} {directory path : Path}

@[simp] theorem taken_ofConfig (files : Files.Tree) (config : ReaderConfig) :
    (ofConfig files config).taken = 0 := by
  unfold ofConfig ofSource
  split <;> rfl

theorem mem_ofConfig (hsource : config.source = .directory directory) :
    path ∈ (ofConfig files config).all ↔ path ∈ listed files directory := by
  rw [ofConfig, hsource, ofSource]
  dsimp only
  split
  · exact List.mem_mergeSort
  · exact Iff.rfl

theorem mem_listed (h : path ∈ listed files directory) :
    (∃ place name, name ∈ files.members place ∧ path = directory.child name) ∧
      ∃ bytes, files.read path = .ok bytes := by
  obtain ⟨hentry, hthere⟩ := List.mem_filter.mp h
  constructor
  · unfold entries at hentry
    split at hentry
    · rename_i place _
      obtain ⟨name, hname, rfl⟩ := List.mem_map.mp hentry
      exact ⟨place, name, hname, rfl⟩
    · cases hentry
  · split at hthere
    · rename_i hfile
      exact Files.Tree.read_of_hasFile (hfile.trans (congrArg _ hthere))
    · cases hthere

end Members

namespace Reader

variable {r q : Reader} {v w : World} {p : Parameters} {config : ReaderConfig} {path : Path}
  {files files' : Files.Tree}

theorem announced_preserves (r : Reader) (h : w.Preserves files path) :
    ∃ files', r.announced w path = .ok files' ∧ files'.read path = files.read path := by
  obtain ⟨hproblem, hpreserves⟩ := StatusLog.appendAll_preserves (s := r.status) h
    [StatusLog.separator, "Importing " ++ path.name, StatusLog.separator]
  unfold announced StatusLog.banner
  generalize r.status.appendAll _ w = outcome at hproblem hpreserves ⊢
  obtain ⟨status, v, problem⟩ := outcome
  obtain rfl : problem = none := hproblem
  exact ⟨v.files, rfl, hpreserves.unchanged⟩

theorem openCopybook_congr (h : files.read path = files'.read path) (encoding : Json.Value) :
    openCopybook files path encoding = openCopybook files' path encoding := by
  unfold openCopybook
  rw [h]

/-- What a member comes to depends on its content, its path and the parameters, but neither on the
source that it belongs to nor on what else there is. -/
theorem produce_eq (hmode : r.typeMode = q.typeMode) (hw : w.Preserves files path)
    (hv : v.Preserves files path) (config : ReaderConfig) (source : Source) :
    r.produce w config path = q.produce v { config with source := source } path := by
  obtain ⟨opened, hopened, hread⟩ := announced_preserves r hw
  obtain ⟨opened', hopened', hread'⟩ := announced_preserves q hv
  simp only [produce, hopened, hopened', mapError_ok, bind, Except.bind]
  rw [openCopybook_congr (hread.trans hread'.symm)]
  simp only [namespaceOf, harvested, mapping, hmode]

theorem reads_done (h : r.phase = .done) {worlds : List World} {i : Nat} (hw : worlds[i]? = some w) :
    (r.reads worlds)[i]?.map (·.result) = some (.ok none) := by
  induction worlds generalizing i with
  | nil => simp at hw
  | cons v rest ih =>
    rw [reads, read_done h]
    cases i with
    | zero => rfl
    | succ i => exact ih (by simpa using hw)

section

variable {start : Reader} {members members' : Members} (h : Serves start config members r)
include h

theorem Serves.read_result (hnext : members.next = (some path, members')) (w : World) :
    (r.read w).result = (start.produce w config path).map some := by
  have hspec := h.read_spec hnext w
  generalize start.produce w config path = result at hspec ⊢
  cases result with
  | ok object => exact hspec.1
  | error failure =>
    cases failure with
    | problem problem => exact hspec.1
    | fault fault => exact hspec

theorem Serves.read_ok (hnext : members.next = (some path, members'))
    {value : Option DataObject} (hvalue : (r.read w).result = .ok value) :
    Serves start config members' (r.read w).reader := by
  have hspec := h.read_spec hnext w
  have hresult := h.read_result hnext w
  rw [hvalue] at hresult
  cases hproduce : start.produce w config path with
  | ok object =>
    rw [hproduce] at hspec
    exact hspec.2
  | error failure => simp [hproduce, Except.map] at hresult

/-- The reads of a reader that has members left: each takes up the next one, and after the last one
there is nothing. -/
theorem Serves.reads_spec {worlds : List World} {i : Nat} (hw : worlds[i]? = some w)
    (hbefore : ∀ o ∈ (r.reads worlds).take i, ∃ value, o.result = .ok value) :
    (r.reads worlds)[i]?.map (·.result) = some (match members.all[members.taken + i]? with
      | some path => (start.produce w config path).map some
      | none => .ok none) := by
  induction worlds generalizing r members i with
  | nil => simp at hw
  | cons v rest ih =>
    rw [reads] at hbefore ⊢
    cases hpath : members.next.1 with
    | none =>
      have hend := Members.next_none hpath
      have hafter : members.all[members.taken + i]? = none := by
        rw [List.getElem?_eq_none_iff] at hend ⊢
        omega
      rw [hafter, h.read_last hpath]
      cases i with
      | zero => rfl
      | succ i => exact reads_done rfl (by simpa using hw)
    | some path =>
      have hnext : members.next = (some path, members.next.2) := Prod.ext hpath rfl
      obtain ⟨hplace, hmembers⟩ := Members.next_some hnext
      cases i with
      | zero =>
        obtain rfl : v = w := by simpa using hw
        rw [Nat.add_zero, hplace, List.getElem?_cons_zero, Option.map_some,
          h.read_result hnext]
      | succ i =>
        rw [List.take_succ_cons, List.forall_mem_cons] at hbefore
        obtain ⟨⟨value, hvalue⟩, hbefore⟩ := hbefore
        have hshift : members.next.2.all[members.next.2.taken + i]? =
            members.all[members.taken + (i + 1)]? := by
          rw [hmembers, Nat.add_assoc, Nat.add_comm 1 i]
        rw [List.getElem?_cons_succ, ← hshift]
        exact ih (h.read_ok hnext hvalue) (by simpa using hw) hbefore

end

def readSingle (p : Parameters) (path : Path) (w : World) : Outcome (Option DataObject) :=
  let o := new.init (p.ofMember path) w
  o.reader.read o.world

theorem readSingle_spec {bytes : Bytes}
    (hconfig : ReaderConfig.ofParameters files p = .ok config)
    (hpath : Path.ofText path.toText = path) (hread : w.files.read path = .ok bytes) :
    (new.init (p.ofMember path) w).result = .ok () ∧ ∃ records, (readSingle p path w).result =
      (new.produce (w.note records) { config with source := .copybook path } path).map some := by
  have hmember := ReaderConfig.ofParameters_ofMember hconfig hpath hread
  have hcases := init_cases new (p.ofMember path) w
  have hverdict : verdict new.typeMode w.files (p.ofMember path) =
      .ok { config with source := .copybook path } := by
    rw [verdict, hmember]
    rfl
  rw [hverdict] at hcases
  obtain ⟨records, hinit⟩ := hcases
  refine ⟨by rw [hinit], records, ?_⟩
  unfold readSingle
  rw [hinit]
  have hserves : Serves new { config with source := .copybook path } ⟨.copybook, [path], 0⟩
      { new with
        phase := .configured, config := some { config with source := .copybook path },
        members := some ⟨.copybook, [path], 0⟩ } :=
    ⟨.inl rfl, rfl, rfl, rfl, rfl⟩
  exact hserves.read_result rfl (w.note records)

/-- The reads of a reader of a directory, up to the first that fails, are those of new readers which
read one member each, and after the last member there is nothing. Meanwhile files may be added as
long as the members stay as they are. -/
theorem reads_directory {worlds : List World} {i : Nat}
    (hconfig : ReaderConfig.ofParameters w.files p = .ok config)
    (hscope : config.scope = .directory) (hnamed : w.files.IsNamed)
    (hinit : (r.init p w).result = .ok ())
    (hworlds : ∀ v ∈ worlds, ∀ path ∈ (Members.ofConfig w.files config).all,
      v.Preserves w.files path)
    (hi : i < worlds.length)
    (hbefore : ∀ o ∈ ((r.init p w).reader.reads worlds).take i, ∃ value, o.result = .ok value) :
    match (Members.ofConfig w.files config).all[i]? with
    | some path => ∀ u : World, u.Preserves w.files path →
      (new.init (p.ofMember path) u).result = .ok () ∧
        ((r.init p w).reader.reads worlds)[i]?.map (·.result) =
          some (readSingle p path u).result
    | none => ((r.init p w).reader.reads worlds)[i]?.map (·.result) = some (.ok none) := by
  obtain ⟨config', records, hverdict, hreader⟩ := init_ok hinit
  obtain ⟨hconfig', -, hmode⟩ := verdict_ok hverdict
  obtain rfl := Except.ok.inj (hconfig.symm.trans hconfig')
  obtain ⟨directory, hsource⟩ := ReaderConfig.source_of_scope hscope
  have htype : (r.init p w).reader.typeMode = false := by
    rw [hreader, Bool.eq_false_iff]
    intro ht
    rw [hmode ht] at hscope
    cases hscope
  have hserves : Serves (r.init p w).reader config (Members.ofConfig w.files config)
      (r.init p w).reader := by
    rw [hreader]
    exact ⟨.inl rfl, rfl, rfl, rfl, rfl⟩
  have hspec := hserves.reads_spec (List.getElem?_eq_getElem hi) hbefore
  rw [Members.taken_ofConfig, Nat.zero_add] at hspec
  rw [hspec]
  cases hplace : (Members.ofConfig w.files config).all[i]? with
  | none => rfl
  | some path =>
    intro u hu
    have hmem : path ∈ (Members.ofConfig w.files config).all := List.mem_of_getElem? hplace
    obtain ⟨⟨place, name, hname, hchild⟩, bytes, hbytes⟩ :=
      Members.mem_listed ((Members.mem_ofConfig hsource).mp hmem)
    have hnormal : path.IsNormal := by
      rw [hchild]
      exact (ReaderConfig.isNormal_of_directory hconfig hsource).child (hnamed.members hname)
    obtain ⟨hsingle, more, hresult⟩ := readSingle_spec hconfig (Path.ofText_toText hnormal)
      (hu.unchanged.trans hbytes)
    have hproduce := produce_eq (q := new) htype (hworlds _ (List.getElem_mem hi) path hmem)
      (hu.note more) config (.copybook path)
    refine ⟨hsingle, ?_⟩
    rw [hresult, ← hproduce]

/-- Surroundings with the directory D, which holds some copybooks. -/
def directoryWorld (copybooks : List (Text × Text)) : World :=
  { sampleWorld [] with
    files := ⟨[], (["D"], .directory) :: copybooks.map fun copybook =>
      (["D", copybook.1], .file (Encoding.encodeUtf8 copybook.2))⟩
    sink := some (.memory [] none) }

def directoryParameters : Parameters :=
  { sampleParameters with
    scope := some "pds", copybookDirectory := some "D/../D", encoding := some "ascii" }

/-- A condition name of the second copybook has no item before it. -/
def pairWorld : World :=
  directoryWorld [("A", "       05 A PIC X."), ("B", "       88 B VALUE 'Y'.")]

def grownWorld : World :=
  directoryWorld [("C", "       05 C PIC X."), ("A", "       05 A PIC X."),
    ("B", "       88 B VALUE 'Y'.")]

def pairConfig : ReaderConfig :=
  ⟨.directory (Path.ofText "D/../D"), "P", .empty .null, .null, .mixed, .text "ascii", false⟩

/-- The second member fails for the reader of the directory as it does for one of its own, though a
copybook has been put in front of both. -/
theorem reads_directory_pair :
    let r := (new.init directoryParameters pairWorld).reader
    let path := (Path.ofText "D/../D").child "B"
    let alone := { pairWorld with sink := none }
    (new.init directoryParameters pairWorld).result = .ok () ∧
      (∀ o ∈ (r.reads [pairWorld, grownWorld]).take 1, ∃ value, o.result = .ok value) ∧
      (new.init (directoryParameters.ofMember path) alone).result = .ok () ∧
      (r.reads [pairWorld, grownWorld])[1]?.map (·.result) =
        some (readSingle directoryParameters path alone).result := by
  intro r path alone
  have hconfig : ReaderConfig.ofParameters pairWorld.files directoryParameters = .ok pairConfig :=
    rfl
  have hall : (Members.ofConfig pairWorld.files pairConfig).all =
      [(Path.ofText "D/../D").child "A", path] := by decide +kernel
  have hinit : (new.init directoryParameters pairWorld).result = .ok () := by decide +kernel
  have hnamed : pairWorld.files.IsNamed := by decide +kernel
  have hworlds : ∀ v ∈ [pairWorld, grownWorld],
      ∀ path ∈ (Members.ofConfig pairWorld.files pairConfig).all,
        v.Preserves pairWorld.files path := by
    rw [hall]
    simp only [List.forall_mem_cons, List.not_mem_nil, false_implies, implies_true, and_true]
    exact ⟨⟨⟨trivial, by rintro _ ⟨⟩, rfl⟩, ⟨trivial, by rintro _ ⟨⟩, rfl⟩⟩,
      ⟨trivial, by rintro _ ⟨⟩, by decide +kernel⟩, ⟨trivial, by rintro _ ⟨⟩, by decide +kernel⟩⟩
  have hbefore : ∀ o ∈ (r.reads [pairWorld, grownWorld]).take 1,
      ∃ value, o.result = .ok value := by
    have hfirst : ((r.read pairWorld).result).isOk = true := by decide +kernel
    intro o ho
    obtain rfl : o = r.read pairWorld := by simpa [reads] using ho
    cases hresult : (r.read pairWorld).result with
    | ok value => exact ⟨value, rfl⟩
    | error failure => simp [hresult, Except.isOk, Except.toBool] at hfirst
  have hdirectory := reads_directory hconfig rfl hnamed hinit hworlds (i := 1) (by simp) hbefore
  rw [hall] at hdirectory
  exact ⟨hinit, hbefore, hdirectory alone ⟨trivial, by rintro _ ⟨⟩, rfl⟩⟩

end Reader
end Copybook
