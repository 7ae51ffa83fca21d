import Copybook.Proofs.Validation
import Mathlib.Data.List.Sort

/-!
Members one after the other. A sorted directory hands out its files in the order of their names, in
whatever order it lists them, and an unsorted one in the order of its listing. -/
namespace Copybook

namespace Path

theorem mem_toText_child {p : Path} {name : Text} {c : Char} (h : c ∈ (p.child name).toText)
    (hc : c ≠ '/') : c ∈ p.toText ∨ c ∈ name := by
  obtain ⟨root, parts⟩ := p
  simp only [child, toText] at h ⊢
  rcases List.eq_nil_or_concat parts with rfl | ⟨front, last, rfl⟩
  · cases root <;> simp_all [Text.join, or_assoc]
  · have hjoin := Text.join_concat ['/'] last name front
    simp_all [or_assoc]

end Path

/-! ### Entries of a directory -/

namespace Files.Tree

variable {t u : Tree} {place : Place} {name : Text} {directory : Path}

/-- Trees as a file system has them: no place comes twice, and no name leads back to the directory
above or holds a null character. -/
structure IsOrderly (t : Tree) : Prop where
  distinct : (t.nodes.map (·.1)).Nodup
  names : ∀ place ∈ t.nodes.map (·.1), ∀ name ∈ place, name ≠ ['.', '.'] ∧ '\x00' ∉ name

def holdsFile (t : Tree) (place : Place) (name : Text) : Bool :=
  match t.node? (place ++ [name]) with
  | some (.file _) => true
  | _ => false

theorem holdsFile_iff : t.holdsFile place name = true ↔
    ∃ content, t.node? (place ++ [name]) = some (.file content) := by
  unfold holdsFile
  cases t.node? (place ++ [name]) with
  | none => simp
  | some node => cases node <;> simp

theorem locate_child (h : t.locate directory = .ok place)
    (hthere : t.node? place = some .directory) (hname : name ≠ ['.', '.']) (hnull : '\x00' ∉ name)
    (hreach : ¬ t.IsOutOfReach (directory.child name)) :
    t.locate (directory.child name) = .ok (place ++ [name]) := by
  have hchild : '\x00' ∉ (directory.child name).toText := by
    intro hmem
    refine (Path.mem_toText_child hmem (by decide)).elim (fun hdirectory => ?_) hnull
    rw [(locate_nullCharacter_iff t directory).mpr hdirectory] at h
    cases h
  have hstep : t.walk place [name] =
      if isTooLong 255 name then .error .nameTooLong else .ok (place ++ [name]) := by
    simp [walk, hthere, step, hname]
  have hnames : t.walk (t.start (directory.child name)) (directory.child name).parts =
      if isTooLong 255 name then .error .nameTooLong else .ok (place ++ [name]) := by
    change t.walk (t.start directory) (directory.parts ++ [name]) = _
    rw [walk_concat, walk_of_locate h]
    exact hstep
  simp only [IsOutOfReach, locate, List.contains_iff_mem, hchild, if_false, hnames] at hreach ⊢
  split
  · rename_i hlong
    simp [hlong] at hreach
  · split
    · rename_i hlong hlongName
      simp [hlong, hlongName] at hreach
    · rfl

theorem hasFile_child (h : t.locate directory = .ok place)
    (hthere : t.node? place = some .directory) (hname : name ≠ ['.', '.']) (hnull : '\x00' ∉ name)
    (hreach : ¬ t.IsOutOfReach (directory.child name)) :
    t.hasFile (directory.child name) = .ok (t.holdsFile place name) := by
  rw [hasFile, look_eq_find hreach, find, locate_child h hthere hname hnull hreach, holdsFile]
  dsimp only
  cases t.node? (place ++ [name]) with
  | none => rfl
  | some node => cases node <;> rfl

/-! ### The same tree in another order -/

theorem node?_perm (hperm : u.nodes.Perm t.nodes) (h : (t.nodes.map (·.1)).Nodup) (place : Place) :
    u.node? place = t.node? place := by
  cases place with
  | nil => rfl
  | cons name rest => exact Association.find?_perm hperm h _

theorem walk_congr (h : ∀ place, u.node? place = t.node? place) (start : Place)
    (names : List Text) : u.walk start names = t.walk start names := by
  induction names generalizing start with
  | nil => rfl
  | cons name rest ih => simp only [walk, h, ih]

theorem locate_congr (hworking : u.working = t.working)
    (h : ∀ place, u.node? place = t.node? place) (p : Path) : u.locate p = t.locate p := by
  unfold locate start
  simp only [walk_congr h, hworking]

theorem IsOrderly.perm (h : t.IsOrderly) (hperm : u.nodes.Perm t.nodes) : u.IsOrderly where
  distinct := (hperm.map _).nodup_iff.mpr h.distinct
  names place hplace := h.names place ((hperm.map _).mem_iff.mp hplace)

end Files.Tree

/-! ### Calls -/

namespace Members

variable {t u : Files.Tree} {place : Files.Place} {directory : Path} {names : List Text}

/-- The members that are left behind by some calls, one after the other. -/
def after (m : Members) : Nat → Members
  | 0 => m
  | n + 1 => m.next.2.after n

/-- What is handed out by the call that comes after some others. -/
def answer (m : Members) (n : Nat) : Option Path := (m.after n).next.1

theorem answer_eq (m : Members) (n : Nat) : m.answer n = m.all[m.taken + n]? := by
  induction n generalizing m with
  | zero =>
    change m.next.1 = m.all[m.taken]?
    unfold next
    split <;> simp_all
  | succ n ih =>
    change m.next.2.answer n = _
    rw [ih]
    cases hnext : m.next.1 with
    | none =>
      have hend := next_none hnext
      have hsame : m.next.2 = m := by simp [next, hend]
      rw [hsame]
      rw [List.getElem?_eq_none_iff] at hend
      rw [List.getElem?_eq_none (by omega), List.getElem?_eq_none (by omega)]
    | some path =>
      obtain ⟨-, hrest⟩ := next_some (Prod.ext hnext rfl : m.next = (some path, m.next.2))
      rw [hrest, Nat.add_assoc, Nat.add_comm 1]

def textLe (a b : Text) : Bool := !decide (b < a)

theorem pairwise_mergeSort (h : names.Nodup) : (names.mergeSort textLe).Pairwise (· < ·) := by
  have hle : (names.mergeSort textLe).Pairwise fun a b => textLe a b = true := by
    refine List.pairwise_mergeSort (fun a b c hab hbc => ?_) (fun a b => ?_) names
    · simp only [textLe, Bool.not_eq_true', decide_eq_false_iff_not] at hab hbc ⊢
      exact List.le_trans hab hbc
    · simp only [textLe, Bool.or_eq_true, Bool.not_eq_true', decide_eq_false_iff_not]
      exact List.le_total a b
  have hne : (names.mergeSort textLe).Pairwise (· ≠ ·) :=
    (List.mergeSort_perm names textLe).nodup_iff.mpr h
  refine hle.imp₂ (fun a b hab hne => ?_) hne
  simp only [textLe, Bool.not_eq_true', decide_eq_false_iff_not] at hab
  by_contra hlt
  exact hne (List.le_antisymm hab hlt)

theorem mergeSort_children (names : List Text) (directory : Path) :
    (names.map directory.child).mergeSort nameLe = (names.mergeSort textLe).map directory.child :=
  (List.map_mergeSort fun a _ b _ => by simp [textLe, nameLe]).symm

theorem entries_eq (h : t.locate directory = .ok place) :
    entries t directory = (t.members place).map directory.child := by
  rw [entries, h]

theorem listed_eq (ht : t.IsOrderly) (h : t.locate directory = .ok place)
    (hthere : t.node? place = some .directory)
    (hlisted : trouble? t (.directory directory) = none) :
    listed t directory = ((t.members place).filter (t.holdsFile place)).map directory.child := by
  rw [Source.trouble?_eq_none_iff, entries_eq h] at hlisted
  rw [listed, entries_eq h, List.filter_map]
  congr 1
  refine List.filter_congr fun name hname => ?_
  obtain ⟨hdots, hnull⟩ := ht.names _ (Files.Tree.mem_members_iff.mp hname) name (by simp)
  have hreach := hlisted _ (List.mem_map_of_mem hname)
  simp only [Function.comp_apply, Files.Tree.hasFile_child h hthere hdots hnull hreach]

def inOrder (t : Files.Tree) (place : Files.Place) : List Text :=
  ((t.members place).filter (t.holdsFile place)).mergeSort textLe

theorem mem_inOrder_iff {name : Text} : name ∈ inOrder t place ↔
    ∃ content, t.node? (place ++ [name]) = some (.file content) := by
  rw [inOrder, List.mem_mergeSort, List.mem_filter, Files.Tree.holdsFile_iff, and_iff_right_iff_imp]
  rintro ⟨content, hfile⟩
  rw [Files.Tree.mem_members_iff, ← Association.find?_isSome_iff]
  cases place <;> exact Option.isSome_of_mem hfile

theorem pairwise_inOrder (ht : t.IsOrderly) (place : Files.Place) :
    (inOrder t place).Pairwise (· < ·) :=
  pairwise_mergeSort ((Files.Tree.nodup_members ht.distinct place).filter _)

theorem answer_sorted (ht : t.IsOrderly) (h : t.locate directory = .ok place)
    (hthere : t.node? place = some .directory)
    (hlisted : trouble? t (.directory directory) = none) (n : Nat) :
    (ofSource t true (.directory directory)).answer n = (inOrder t place)[n]?.map directory.child := by
  rw [answer_eq, ofSource, listed_eq ht h hthere hlisted, if_pos rfl, mergeSort_children, Nat.zero_add,
    List.getElem?_map, inOrder]

theorem trouble?_perm (ht : t.IsOrderly) (h : t.locate directory = .ok place)
    (hworking : u.working = t.working) (hperm : u.nodes.Perm t.nodes)
    (hlisted : trouble? t (.directory directory) = none) :
    trouble? u (.directory directory) = none := by
  have hlocate := Files.Tree.locate_congr hworking (Files.Tree.node?_perm hperm ht.distinct)
  rw [Source.trouble?_eq_none_iff, entries_eq h] at hlisted
  rw [Source.trouble?_eq_none_iff, entries_eq ((hlocate directory).trans h)]
  intro entry hentry
  rw [Files.Tree.IsOutOfReach, hlocate]
  refine hlisted entry ?_
  rw [List.mem_map] at hentry ⊢
  obtain ⟨name, hname, rfl⟩ := hentry
  rw [Files.Tree.mem_members_iff, (hperm.map _).mem_iff, ← Files.Tree.mem_members_iff] at hname
  exact ⟨name, hname, rfl⟩

/-- A sorted directory hands out its regular files and nothing else, each one once and by increasing
names, and then nothing more; any other listing of the same files comes to the same. Without sorting
the files come in the order of the listing. -/
theorem answers_in_order (ht : t.IsOrderly) (h : t.locate directory = .ok place)
    (hthere : t.node? place = some .directory)
    (hlisted : trouble? t (.directory directory) = none) :
    (∃ names : List Text, names.Pairwise (· < ·) ∧
      (∀ name, name ∈ names ↔ ∃ content, t.node? (place ++ [name]) = some (.file content)) ∧
      ∀ n, (ofSource t true (.directory directory)).answer n = names[n]?.map directory.child) ∧
    (∀ nodes, nodes.Perm t.nodes → let u : Files.Tree := { t with nodes := nodes }
      trouble? u (.directory directory) = none ∧
      ∀ n, (ofSource u true (.directory directory)).answer n =
        (ofSource t true (.directory directory)).answer n) ∧
    ∀ n, (ofSource t false (.directory directory)).answer n =
      ((t.members place).filter (t.holdsFile place))[n]?.map directory.child := by
  refine ⟨⟨inOrder t place, pairwise_inOrder ht place, fun _ => mem_inOrder_iff,
    answer_sorted ht h hthere hlisted⟩, fun nodes hperm => ?_, fun n => ?_⟩
  · intro u
    have hnode := Files.Tree.node?_perm (u := u) hperm ht.distinct
    have hthere' := (hnode place).trans hthere
    have hlocate := (Files.Tree.locate_congr (t := t) (u := u) rfl hnode directory).trans h
    have hlisted' := trouble?_perm (u := u) ht h rfl hperm hlisted
    -- Increasing names are determined by which names they are.
    have hsame : inOrder u place = inOrder t place := by
      refine (pairwise_inOrder (ht.perm hperm) place).eq_of_mem_iff (pairwise_inOrder ht place) ?_
      intro name
      rw [mem_inOrder_iff, mem_inOrder_iff, hnode]
    refine ⟨hlisted', fun n => ?_⟩
    rw [answer_sorted (ht.perm hperm) hlocate hthere' hlisted', answer_sorted ht h hthere hlisted, hsame]
  · rw [answer_eq, ofSource, listed_eq ht h hthere hlisted, if_neg (by decide), Nat.zero_add,
      List.getElem?_map]

/-- A directory with a directory in it, and names that are told apart by their case alone. -/
def mixedFiles : Files.Tree :=
  ⟨[], [(["LIB"], .directory), (["LIB", "b"], .file []), (["LIB", "SUB"], .directory),
    (["LIB", "\u00e9"], .file []), (["LIB", "B"], .file []), (["LIB", "SUB", "A"], .file [])]⟩

def reversedFiles : Files.Tree := { mixedFiles with nodes := mixedFiles.nodes.reverse }

theorem answers_in_order_mixed :
    mixedFiles.IsOrderly ∧ mixedFiles.locate (.ofText "LIB") = .ok ["LIB"] ∧
      mixedFiles.node? ["LIB"] = some .directory ∧
      trouble? mixedFiles (.directory (.ofText "LIB")) = none ∧
      (∀ n, (ofSource reversedFiles true (.directory (.ofText "LIB"))).answer n =
        (ofSource mixedFiles true (.directory (.ofText "LIB"))).answer n) ∧
      (ofSource mixedFiles false (.directory (.ofText "LIB"))).answer 0 =
        some (.ofText "LIB/b") := by
  have horderly : mixedFiles.IsOrderly := ⟨by decide +kernel, by decide +kernel⟩
  have hplace : mixedFiles.locate (.ofText "LIB") = .ok ["LIB"] := by decide +kernel
  have hthere : mixedFiles.node? ["LIB"] = some .directory := by decide +kernel
  have hlisted : trouble? mixedFiles (.directory (.ofText "LIB")) = none := by decide +kernel
  obtain ⟨-, hperm, hunsorted⟩ := answers_in_order horderly hplace hthere hlisted
  refine ⟨horderly, hplace, hthere, hlisted, (hperm _ (List.reverse_perm _)).2, ?_⟩
  rw [hunsorted 0]
  decide +kernel

end Members
end Copybook
