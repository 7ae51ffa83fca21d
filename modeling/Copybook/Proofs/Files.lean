import Copybook.Files.Tree
import Copybook.Proofs.Association
import Copybook.Proofs.Result

/-!
Paths and files. A path in normal form is read back from its text, what is written to a file is read
from it, and writing more into a file changes neither where paths lead nor any other file. -/
namespace Copybook
namespace Text

theorem splitOn_eq (mark : Char) (t : Text) : splitOn mark t = List.splitOn mark t := by
  induction t with
  | nil => rfl
  | cons c r ih =>
    rw [splitOn, ih]
    simp only [List.splitOn, List.splitOnP_cons_eq_if_modifyHead, beq_iff_eq]
    split
    · rfl
    · cases hr : List.splitOnP (· == mark) r with
      | nil => exact absurd hr (List.splitOnP_ne_nil _ _)
      | cons part parts => rfl

theorem join_eq_intercalate (separator : Text) (parts : List Text) :
    join separator parts = separator.intercalate parts := by
  induction parts with
  | nil => rfl
  | cons part parts ih =>
    cases parts with
    | nil => simp [join]
    | cons next parts => rw [join, ih, List.intercalate_cons_cons]

theorem splitOn_join {mark : Char} {parts : List Text} (h : ∀ part ∈ parts, mark ∉ part)
    (hne : parts ≠ []) : splitOn mark (join [mark] parts) = parts := by
  rw [splitOn_eq, join_eq_intercalate, List.splitOn_intercalate mark h hne]

theorem not_mem_of_mem_splitOn {mark : Char} {t part : Text} (h : part ∈ splitOn mark t) :
    mark ∉ part := by
  induction t generalizing part with
  | nil =>
    obtain rfl : part = [] := by simpa [splitOn] using h
    simp
  | cons c r ih =>
    rw [splitOn] at h
    split at h
    · rcases List.mem_cons.mp h with rfl | h
      · simp
      · exact ih h
    · rename_i hc
      split at h
      · obtain rfl : part = [c] := by simpa using h
        simpa using Ne.symm hc
      · rename_i first rest hsplit
        rcases List.mem_cons.mp h with rfl | h
        · simp only [List.mem_cons, not_or]
          exact ⟨Ne.symm hc, ih (hsplit ▸ List.mem_cons_self)⟩
        · exact ih (hsplit ▸ List.mem_cons_of_mem _ h)

end Text

namespace Path

def IsName (name : Text) : Prop := isStep name = true ∧ '/' ∉ name

instance (name : Text) : Decidable (IsName name) := inferInstanceAs (Decidable (_ ∧ _))

/-- The form that every path has which is made from a text. -/
structure IsNormal (p : Path) : Prop where
  root : p.root = [] ∨ p.root = ['/'] ∨ p.root = ['/', '/']
  names : ∀ name ∈ p.parts, IsName name

theorem isNormal_ofText (t : Text) : (ofText t).IsNormal := by
  constructor
  · unfold ofText rootOf
    dsimp only
    split <;> simp
  · intro name hname
    obtain ⟨hsplit, hstep⟩ := List.mem_filter.mp hname
    exact ⟨hstep, Text.not_mem_of_mem_splitOn hsplit⟩

theorem IsNormal.child {p : Path} (h : p.IsNormal) {name : Text} (hname : IsName name) :
    (p.child name).IsNormal := by
  constructor
  · exact h.root
  · intro other hother
    rcases List.mem_append.mp hother with hother | hother
    · exact h.names other hother
    · obtain rfl := List.mem_singleton.mp hother
      exact hname

theorem takeWhile_join {parts : List Text} (h : ∀ name ∈ parts, IsName name) :
    (Text.join ['/'] parts).takeWhile (fun c => c = '/') = [] := by
  cases parts with
  | nil => rfl
  | cons name rest =>
    obtain ⟨hstep, hslash⟩ := h name List.mem_cons_self
    cases name with
    | nil => simp [isStep] at hstep
    | cons c r =>
      have hc : c ≠ '/' := by
        rintro rfl
        simp at hslash
      cases rest <;> simp [Text.join, hc]

theorem filter_splitOn_join {parts : List Text} (h : ∀ name ∈ parts, IsName name) :
    (Text.splitOn '/' (Text.join ['/'] parts)).filter isStep = parts := by
  by_cases hne : parts = []
  · subst hne
    rfl
  · rw [Text.splitOn_join (fun name hname => (h name hname).2) hne, List.filter_eq_self]
    exact fun name hname => (h name hname).1

/-- A path in normal form is read back from its text. -/
theorem ofText_toText {p : Path} (h : p.IsNormal) : ofText p.toText = p := by
  obtain ⟨root, parts⟩ := p
  obtain ⟨hroot, hnames⟩ := h
  have hstart := takeWhile_join hnames
  have hparts := filter_splitOn_join hnames
  dsimp only at hroot hstart hparts
  unfold toText
  split
  · rename_i hempty
    obtain ⟨rfl, rfl⟩ : root = [] ∧ parts = [] := by simpa using hempty
    rfl
  · rcases hroot with rfl | rfl | rfl <;>
      simp [ofText, rootOf, Text.splitOn, hstart, hparts, isStep]

end Path

namespace Files
namespace Tree

variable {t : Tree} {place : Place}

theorem node?_put {node : Node} (h : place ≠ []) (other : Place) :
    (t.put place node).node? other = if place = other then some node else t.node? other := by
  cases other with
  | nil => simp [node?, h]
  | cons name rest => simp [node?, put, Association.find?_put]

theorem node?_append_self {old : Bytes} (h : t.node? place = some (.file old)) (content : Bytes) :
    (t.append place content).node? place = some (.file (old ++ content)) := by
  have hne : place ≠ [] := by
    rintro rfl
    simp [node?] at h
  rw [append, h]
  simp [node?_put hne]

theorem append_of_not_file (h : ∀ old, t.node? place ≠ some (.file old)) (content : Bytes) :
    t.append place content = t := by
  unfold append
  split
  · exact absurd ‹_› (h _)
  · rfl

/-- Appending to a file changes no other node, and leaves the file a file. -/
theorem node?_append (t : Tree) (place : Place) (content : Bytes) (other : Place) :
    (t.append place content).node? other = t.node? other ∨ other = place ∧
      ∃ old new, t.node? other = some (.file old) ∧
        (t.append place content).node? other = some (.file new) := by
  by_cases h : ∃ old, t.node? place = some (.file old)
  · obtain ⟨old, hold⟩ := h
    by_cases ho : place = other
    · subst ho
      exact .inr ⟨rfl, old, _, hold, node?_append_self hold content⟩
    · have hne : place ≠ [] := by
        rintro rfl
        simp [node?] at hold
      left
      simp [append, hold, node?_put hne, ho]
  · rw [append_of_not_file (fun old hold => h ⟨old, hold⟩)]
    exact .inl rfl

theorem walk_append (t : Tree) (place : Place) (content : Bytes) (start : Place)
    (names : List Text) : (t.append place content).walk start names = t.walk start names := by
  induction names generalizing start with
  | nil => rfl
  | cons name rest ih =>
    rw [walk, walk]
    rcases node?_append t place content start with h | ⟨-, old, new, hold, hnew⟩
    · rw [h]
      simp only [ih]
    · rw [hold, hnew]

@[simp] theorem working_put (t : Tree) (place : Place) (node : Node) :
    (t.put place node).working = t.working :=
  rfl

theorem locate_append (t : Tree) (place : Place) (content : Bytes) (p : Path) :
    (t.append place content).locate p = t.locate p := by
  have hworking : (t.append place content).working = t.working := by
    unfold append
    split <;> rfl
  simp [locate, start, walk_append, hworking]

theorem read_append {p : Path} (h : t.locate p ≠ .ok place) (content : Bytes) :
    (t.append place content).read p = t.read p := by
  have hfind : (t.append place content).find p = t.find p := by
    unfold find
    rw [locate_append]
    cases hl : t.locate p with
    | error fault => rfl
    | ok other =>
      rcases node?_append t place content other with hnode | ⟨rfl, -⟩
      · simp only [hnode]
      · exact absurd hl h
  rw [read, hfind, read]

theorem locate_nullCharacter_iff (t : Tree) (p : Path) :
    t.locate p = .error .nullCharacter ↔ '\x00' ∈ p.toText := by
  unfold locate
  by_cases hnull : '\x00' ∈ p.toText
  · simp [hnull]
  · have htrouble : ∀ place : Except Trouble Place,
        place.mapError (fun trouble => Fault.trouble trouble p.toText) ≠ .error .nullCharacter := by
      intro place
      cases place <;> simp
    rw [if_neg (by simpa using hnull)]
    exact iff_of_false (htrouble _) hnull

theorem read_nullCharacter_iff (t : Tree) (p : Path) :
    t.read p = .error .nullCharacter ↔ '\x00' ∈ p.toText := by
  rw [← locate_nullCharacter_iff t, read, find]
  cases t.locate p with
  | error fault => simp
  | ok place =>
    dsimp only
    cases t.node? place with
    | none => simp
    | some node => cases node <;> simp

theorem walk_concat (t : Tree) (start : Place) (front back : List Text) :
    t.walk start (front ++ back) = (t.walk start front).bind fun place => t.walk place back := by
  induction front generalizing start with
  | nil => rfl
  | cons first rest ih =>
    rw [List.cons_append, walk, walk]
    split
    · rfl
    · rfl
    · split
      · rfl
      · exact ih _

/-- A way from the root or upwards leaves the working directory, and above the root is the root. -/
example :
    let t : Tree := ⟨["home"], [(["home"], .directory), (["rules"], .file [])]⟩
    ∀ p ∈ ["/rules", "../rules", "../../rules", "/home/../rules"],
      t.find (Path.ofText p) = .ok (.file []) := by decide

theorem walk_of_locate {p : Path} (h : t.locate p = .ok place) :
    t.walk (t.start p) p.parts = .ok place := by
  have hnull : '\x00' ∉ p.toText := fun hmem => by
    rw [(locate_nullCharacter_iff t p).mpr hmem] at h
    cases h
  simp only [locate, List.contains_iff_mem, hnull, if_false, mapError_eq_ok_iff] at h
  split at h
  · cases h
  · exact h

/-- Putting a node where there is no directory changes no way that could be gone. -/
theorem walk_put {node : Node} {start goal : Place} {names : List Text} (hne : place ≠ [])
    (hplace : t.node? place ≠ some .directory) (h : t.walk start names = .ok goal) :
    (t.put place node).walk start names = .ok goal := by
  induction names generalizing start with
  | nil => exact h
  | cons name rest ih =>
    rw [walk] at h
    cases hnode : t.node? start with
    | none => simp [hnode] at h
    | some found =>
      cases found with
      | file content => simp [hnode] at h
      | directory =>
        have hother : place ≠ start := by
          rintro rfl
          exact hplace hnode
        have hsame : (t.put place node).node? start = some .directory := by
          rw [node?_put hne, if_neg hother, hnode]
        rw [walk, hsame]
        rw [hnode] at h
        dsimp only at h ⊢
        by_cases hlong : isTooLong 255 name = true
        · simp [hlong] at h
        · rw [if_neg hlong] at h ⊢
          exact ih h

theorem locate_put {node : Node} {p : Path} {goal : Place} (hne : place ≠ [])
    (hplace : t.node? place ≠ some .directory) (h : t.locate p = .ok goal) :
    (t.put place node).locate p = .ok goal := by
  unfold locate at h ⊢
  by_cases hnull : p.toText.contains '\x00' = true
  · rw [if_pos hnull] at h
    cases h
  rw [if_neg hnull] at h ⊢
  dsimp only at h ⊢
  by_cases hlong : isTooLong 4095 p.toText = true
  · rw [if_pos hlong] at h
    cases h
  rw [if_neg hlong] at h ⊢
  cases hwalk : t.walk (t.start p) p.parts with
  | error trouble => simp [hwalk] at h
  | ok found =>
    rw [hwalk] at h
    rw [start, working_put, ← start, walk_put hne hplace hwalk]
    exact h

theorem write_eq_ok {u : Tree} {p : Path} {content : Bytes} (h : t.write p content = .ok u) :
    ∃ place, t.locate p = .ok place ∧ t.node? place ≠ some .directory ∧
      u = t.put place (.file content) := by
  unfold write create at h
  cases hlocate : t.locate p with
  | error fault =>
    rw [hlocate] at h
    cases h
  | ok place =>
    have hput : (t.put place (.file [])).put place (.file content) = t.put place (.file content) :=
      congrArg (Tree.mk t.working) (Association.put_put _ _ _ _)
    rw [hlocate] at h
    dsimp only at h
    cases hthere : t.node? place with
    | none =>
      rw [hthere] at h
      obtain rfl := Except.ok.inj h
      exact ⟨place, rfl, by simp [hthere], hput⟩
    | some found =>
      rw [hthere] at h
      cases found with
      | directory => cases h
      | file old =>
        obtain rfl := Except.ok.inj h
        exact ⟨place, rfl, by simp [hthere], hput⟩

theorem read_write {u : Tree} {p : Path} {content : Bytes} (h : t.write p content = .ok u) :
    u.read p = .ok content := by
  obtain ⟨place, hlocate, hplace, rfl⟩ := write_eq_ok h
  have hne : place ≠ [] := by
    rintro rfl
    exact hplace rfl
  rw [read, find, locate_put hne hplace hlocate]
  simp [node?_put hne]

theorem read_of_hasFile {p : Path} (h : t.hasFile p = .ok true) : ∃ bytes, t.read p = .ok bytes := by
  unfold hasFile look at h
  cases hfind : t.find p with
  | error fault =>
    cases fault with
    | trouble trouble path => cases trouble <;> simp [hfind, Except.map] at h
    | nullCharacter => simp [hfind, Except.map] at h
  | ok node =>
    cases node with
    | directory => simp [hfind, Except.map] at h
    | file bytes => exact ⟨bytes, by rw [read, hfind]⟩

theorem look_of_read {p : Path} {bytes : Bytes} (h : t.read p = .ok bytes) :
    t.look p = .ok (some (.file bytes)) := by
  unfold read at h
  split at h
  · rename_i hfind
    obtain rfl := Except.ok.inj h
    rw [look, hfind]
  · cases h
  · cases h

/-! ### Directories -/

theorem members_eq (t : Tree) (place : Place) : t.members place =
    (t.nodes.map (·.1)).filterMap fun other =>
      other.getLast?.bind fun name => if other.dropLast = place then some name else none := by
  rw [members, List.filterMap_map]
  congr 1
  funext entry
  simp only [Function.comp_apply]
  cases entry.1.getLast? <;> rfl

theorem lastName_eq_some_iff {other : Place} {name : Text} :
    (other.getLast?.bind fun name => if other.dropLast = place then some name else none) = some name ↔
      other = place ++ [name] := by
  rcases List.eq_nil_or_concat other with rfl | ⟨front, last, rfl⟩
  · simp
  · simp [and_comm]

theorem mem_members_iff {name : Text} :
    name ∈ t.members place ↔ place ++ [name] ∈ t.nodes.map (·.1) := by
  simp only [members_eq, List.mem_filterMap, lastName_eq_some_iff, exists_eq_right]

theorem nodup_members (h : (t.nodes.map (·.1)).Nodup) (place : Place) : (t.members place).Nodup := by
  rw [members_eq]
  refine h.filterMap fun other another name hname hname' => ?_
  exact (lastName_eq_some_iff.mp hname).trans (lastName_eq_some_iff.mp hname').symm

def IsNamed (t : Tree) : Prop := ∀ entry ∈ t.nodes, ∀ name ∈ entry.1, Path.IsName name

instance (t : Tree) : Decidable t.IsNamed :=
  inferInstanceAs (Decidable (∀ entry ∈ t.nodes, ∀ name ∈ entry.1, Path.IsName name))

theorem IsNamed.members (h : t.IsNamed) {name : Text} (hname : name ∈ t.members place) :
    Path.IsName name := by
  obtain ⟨entry, hentry, hplace⟩ := List.mem_map.mp (mem_members_iff.mp hname)
  exact h entry hentry name (by simp [hplace])

end Tree
end Files
end Copybook
