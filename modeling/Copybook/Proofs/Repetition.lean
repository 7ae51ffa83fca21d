import Copybook.Proofs.Classification
import Copybook.Proofs.Expansion

/-!
Repetition counts of pictures, in any script. A picture that is written out has a whole number in
decimal digits between every pair of parentheses. One that is not has a flaw, unless it is read up to a
count that looks like digits and cannot be used: digits that are no decimal digits, too many of them,
or more repetitions than there can be. Only then is an entry refused otherwise than for a flaw. -/
namespace Copybook

/-- Whether a text is refused for the numbers in it, and not as malformed. -/
def EntryFailure.IsFault (failure : EntryFailure) : Prop := ∀ flaw, failure ≠ .malformed flaw

namespace Picture

structure Counts (block count : Text) (n : Nat) : Prop where
  number : Numeral.Denotes count.trim n
  digits_le : count.trim.length ≤ Numeral.digitLimit
  count_le : n ≤ maxLength
  block_le : block.length * n ≤ maxLength

/-- Texts that begin with a symbol and are written out, from left to right: what the last symbol
stands written out as, and before that all others. -/
inductive Writes : Text → Text → Text → Prop
  | first {c : Char} (hc : c ≠ '(') : Writes [c] [] [c]
  | symbol {p front block : Text} {c : Char} (h : Writes p front block) (hc : c ≠ '(') :
      Writes (p ++ [c]) (front ++ block) [c]
  | count {p front block count : Text} {n : Nat} (h : Writes p front block) (hclosed : ')' ∉ count)
      (hcount : Counts block count n) :
      Writes (p ++ '(' :: (count ++ [')'])) front (Text.repeated n block)

inductive IsWritten : Text → Text → Prop
  | empty : IsWritten [] []
  | symbols {p front block : Text} (h : Writes p front block) : IsWritten p (front ++ block)

/-- Whether a text looks like a number: digits, of whatever kind. -/
def LooksNumeric (t : Text) : Prop := t ≠ [] ∧ ∀ c ∈ t, isDigitLike c = true

/-- Pictures that are read up to a count that looks like a number and cannot be used. -/
inductive Strains : Text → Prop
  | count {p front block count : Text} (h : Writes p front block) (hclosed : ')' ∉ count)
      (hlooks : LooksNumeric count.trim) (hnone : ∀ n, ¬ Counts block count n) (rest : Text) :
      Strains (p ++ '(' :: (count ++ ')' :: rest))

variable {p front block count picture : Text} {n : Nat}

/-! ### One count -/

theorem readCount_looks (h : LooksNumeric count) (picture : Text) :
    readCount picture count = match Numeral.read count with
      | .error problem => .error (.numeral problem)
      | .ok n => .ok n.toNat := by
  obtain ⟨hne, hdigits⟩ := h
  have hnonempty : count.isEmpty = false := by simpa using hne
  rw [readCount, hnonempty, List.all_eq_true.mpr hdigits]
  rfl

theorem Counts.looksNumeric (h : Counts block count n) : LooksNumeric count.trim :=
  ⟨h.number.ne_nil, h.number.isDigitLike⟩

theorem Counts.repeatAs_eq (h : Counts block count n) (picture : Text) :
    repeatAs picture block count = .ok (Text.repeated n block) := by
  have hread : readCount picture count.trim = .ok n := by
    rw [readCount_looks h.looksNumeric, h.number.read_eq, if_neg (Nat.not_lt.mpr h.digits_le)]
    rfl
  simp only [repeatAs, hread, repeatBlock, Nat.not_lt.mpr h.count_le, Nat.not_lt.mpr h.block_le,
    if_false]

theorem repeatAs_flaw (h : ¬ LooksNumeric count.trim) (picture block : Text) :
    repeatAs picture block count = .error (.malformed (.badCount picture count.trim)) := by
  have hread : readCount picture count.trim =
      .error (.malformed (.badCount picture count.trim)) := by
    refine if_pos ?_
    by_contra hgood
    simp only [Bool.or_eq_true, not_or, Bool.not_eq_true, List.isEmpty_eq_false_iff,
      Bool.not_eq_false', List.all_eq_true] at hgood
    exact h hgood
  rw [repeatAs, hread]

theorem repeatAs_strained (hlooks : LooksNumeric count.trim) (hnone : ∀ n, ¬ Counts block count n)
    (picture : Text) : ∃ failure, repeatAs picture block count = .error failure ∧ failure.IsFault := by
  have hread := readCount_looks hlooks picture
  by_cases hdecimal : ∀ c ∈ count.trim, (Digit.value? c).isSome = true
  · have hnumber : Numeral.Denotes count.trim (Numeral.worth 0 count.trim) :=
      ⟨hlooks.1, hdecimal, rfl⟩
    rw [hnumber.read_eq] at hread
    by_cases hdigits : count.trim.length ≤ Numeral.digitLimit
    · rw [if_neg (Nat.not_lt.mpr hdigits)] at hread
      have hvalue : readCount picture count.trim = .ok (Numeral.worth 0 count.trim) := hread
      have hcount : repeatAs picture block count =
          (repeatBlock block (Numeral.worth 0 count.trim)).mapError EntryFailure.repetition := by
        rw [repeatAs, hvalue]
        dsimp only
        cases repeatBlock block (Numeral.worth 0 count.trim) <;> rfl
      rw [hcount, repeatBlock]
      by_cases hbig : maxLength < Numeral.worth 0 count.trim
      · rw [if_pos hbig]
        exact ⟨_, rfl, by simp [EntryFailure.IsFault]⟩
      by_cases hlong : maxLength < block.length * Numeral.worth 0 count.trim
      · rw [if_neg hbig, if_pos hlong]
        exact ⟨_, rfl, by simp [EntryFailure.IsFault]⟩
      · exact absurd ⟨hnumber, hdigits, Nat.not_lt.mp hbig, Nat.not_lt.mp hlong⟩ (hnone _)
    · rw [if_pos (Nat.not_le.mp hdigits)] at hread
      exact ⟨_, by rw [repeatAs, hread], by simp [EntryFailure.IsFault]⟩
  · have hmark : ∃ c ∈ count.trim, (Digit.value? c).isSome = false := by simpa using hdecimal
    obtain ⟨problem, hproblem⟩ := Numeral.read_mark hlooks.2 hmark
    rw [hproblem] at hread
    exact ⟨_, by rw [repeatAs, hread], by simp [EntryFailure.IsFault]⟩

/-! ### From left to right -/

theorem map_map_append (outcome : Except EntryFailure Text) (front block : Text) :
    (outcome.map (block ++ ·)).map (front ++ ·) = outcome.map (front ++ block ++ ·) := by
  cases outcome <;> simp [Except.map]

/-- What has been written out stands before whatever the rest of a picture comes to. -/
theorem Writes.expand_append (h : Writes p front block) (picture rest : Text) :
    expandFrom picture .start (p ++ rest) =
      (expandFrom picture (.after block) rest).map (front ++ ·) := by
  induction h generalizing rest with
  | @first c hc =>
    rw [List.singleton_append, expandFrom, if_neg hc]
    cases expandFrom picture (.after [c]) rest <;> rfl
  | @symbol p front block c _ hc ih =>
    rw [List.append_assoc, List.singleton_append, ih, expandFrom, if_neg hc, map_map_append]
  | @count p front block count n _ hclosed hcount ih =>
    have hsplit : p ++ '(' :: (count ++ [')']) ++ rest = p ++ '(' :: (count ++ ')' :: rest) := by
      simp
    rw [hsplit, ih, expandFrom_group hclosed, hcount.repeatAs_eq]
    rfl

theorem Writes.written_or (h : Writes p front block) (picture rest : Text) :
    (∃ e, IsWritten (p ++ rest) e) ∨
      (∃ flaw, expandFrom picture (.after block) rest = .error (.malformed flaw)) ∨
      Strains (p ++ rest) := by
  -- By induction on the length: behind a symbol and behind closed parentheses there is a shorter text.
  induction hlength : rest.length using Nat.strongRecOn generalizing p front block rest with
  | ind n ih =>
    subst hlength
    cases rest with
    | nil => exact .inl ⟨_, by rw [List.append_nil]; exact .symbols h⟩
    | cons c rest =>
      by_cases hc : c = '('
      · subst hc
        by_cases hclosed : ')' ∈ rest
        · obtain ⟨count, behind, rfl, hcount⟩ := List.eq_append_cons_of_mem hclosed
          rw [expandFrom_group hcount]
          by_cases hlooks : LooksNumeric (Text.trim count)
          · by_cases hcounts : ∃ n, Counts block count n
            · obtain ⟨n, hn⟩ := hcounts
              have hshorter : behind.length < ('(' :: (count ++ ')' :: behind)).length := by
                simp only [List.length_cons, List.length_append]
                omega
              have hrest := ih _ hshorter (.count h hcount hn) behind rfl
              rw [hn.repeatAs_eq]
              simpa [Except.bind] using hrest
            · exact .inr (.inr (.count h hcount hlooks (not_exists.mp hcounts) behind))
          · exact .inr (.inl ⟨_, by rw [repeatAs_flaw hlooks]; rfl⟩)
        · refine .inr (.inl ⟨.unclosedCount picture, ?_⟩)
          rw [expandFrom, if_pos rfl, expandFrom_unclosed hclosed]
      · have hrest := ih _ (Nat.lt_succ_self _) (.symbol h hc) rest rfl
        rw [List.append_assoc, List.singleton_append] at hrest
        refine hrest.imp_right (Or.imp_left ?_)
        rintro ⟨flaw, hflaw⟩
        exact ⟨flaw, by rw [expandFrom, if_neg hc, hflaw]; rfl⟩

theorem IsWritten.expand_eq {e : Text} (h : IsWritten p e) : expand p = .ok e := by
  cases h with
  | empty => rfl
  | symbols h =>
    have hexpand := h.expand_append p []
    rwa [List.append_nil] at hexpand

theorem Strains.expand_eq (h : Strains p) :
    ∃ failure, expand p = .error failure ∧ failure.IsFault := by
  cases h with
  | @count p front block count hwrites hclosed hlooks hnone rest =>
    obtain ⟨failure, hfailure, hfault⟩ :=
      repeatAs_strained hlooks hnone (p ++ '(' :: (count ++ ')' :: rest))
    refine ⟨failure, ?_, hfault⟩
    rw [expand, hwrites.expand_append, expandFrom_group hclosed, hfailure]
    rfl

theorem written_or (p : Text) : (∃ e, IsWritten p e) ∨
    (∃ flaw, expand p = .error (.malformed flaw)) ∨ Strains p := by
  cases p with
  | nil => exact .inl ⟨[], .empty⟩
  | cons c rest =>
    by_cases hc : c = '('
    · subst hc
      exact .inr (.inl ⟨.noSymbol _, rfl⟩)
    · have hfirst : Writes [c] [] [c] := .first hc
      refine (hfirst.written_or (c :: rest) rest).imp_right (Or.imp_left ?_)
      rintro ⟨flaw, hflaw⟩
      exact ⟨flaw, by rw [expand, expandFrom, if_neg hc, hflaw]⟩

theorem expand_fault_iff (p : Text) :
    (∃ failure, expand p = .error failure ∧ failure.IsFault) ↔ Strains p := by
  constructor
  · rintro ⟨failure, hfailure, hfault⟩
    rcases written_or p with ⟨e, he⟩ | ⟨flaw, hflaw⟩ | hstrains
    · cases he.expand_eq.symm.trans hfailure
    · exact absurd (Except.error.inj (hfailure.symm.trans hflaw)) (hfault flaw)
    · exact hstrains
  · exact Strains.expand_eq

theorem expand_ok_iff (p e : Text) : expand p = .ok e ↔ IsWritten p e := by
  refine ⟨fun hok => ?_, IsWritten.expand_eq⟩
  rcases written_or p with ⟨e', he⟩ | ⟨flaw, hflaw⟩ | hstrains
  · obtain rfl := Except.ok.inj (he.expand_eq.symm.trans hok)
    exact he
  · cases hok.symm.trans hflaw
  · obtain ⟨failure, hfailure, -⟩ := hstrains.expand_eq
    cases hok.symm.trans hfailure

/-! ### What stands between parentheses -/

/-- Whether every parenthesis of a picture holds a whole number and is closed behind it. -/
def CountsNumbers (p : Text) : Prop := ∀ before after, p = before ++ '(' :: after →
  ∃ count rest n, after = count ++ ')' :: rest ∧ ')' ∉ count ∧ Numeral.Denotes (Text.trim count) n

theorem Counts.not_mem (h : Counts block count n) : '(' ∉ count := by
  intro hmem
  have htrim : '(' ∈ count.trim := Text.mem_trim (by decide) hmem
  exact absurd (h.number.isDigitLike _ htrim) (by decide)

theorem Writes.countsNumbers (h : Writes p front block) : CountsNumbers p := by
  induction h with
  | @first c hc =>
    rintro before after hsplit
    cases before with
    | nil => exact absurd (List.cons.inj hsplit).1 hc
    | cons d before => simp at hsplit
  | @symbol p front block c _ hc ih =>
    rintro before after hsplit
    rcases List.eq_nil_or_concat after with rfl | ⟨after, d, rfl⟩
    · exact absurd (List.append_inj_right' hsplit rfl) (by simpa using hc)
    · rw [List.concat_eq_append, ← List.cons_append, ← List.append_assoc] at hsplit
      obtain ⟨count, rest, n, rfl, hcount⟩ := ih before after (List.append_inj_left' hsplit rfl)
      exact ⟨count, rest ++ [d], n, by simp, hcount⟩
  | @count p front block count n _ hclosed hcount ih =>
    rintro before after hsplit
    have hlast : count ++ [')'] = after → ∃ count rest n, after = count ++ ')' :: rest ∧
        ')' ∉ count ∧ Numeral.Denotes (Text.trim count) n := by
      rintro rfl
      exact ⟨count, [], n, rfl, hclosed, hcount.number⟩
    rcases List.append_eq_append_iff.mp hsplit with ⟨middle, rfl, hbehind⟩ | ⟨middle, rfl, hbehind⟩
    · cases middle with
      | nil => exact hlast (List.cons.inj hbehind).2
      | cons d middle =>
        have hmem : '(' ∈ count ++ [')'] := by
          rw [(List.cons.inj hbehind).2]
          simp
        exact absurd (by simpa using hmem) hcount.not_mem
    · cases middle with
      | nil => exact hlast (List.cons.inj hbehind).2.symm
      | cons d middle =>
        obtain ⟨rfl, rfl⟩ := List.cons.inj hbehind
        obtain ⟨inner, rest, m, rfl, hinner⟩ := ih before middle rfl
        exact ⟨inner, rest ++ '(' :: (count ++ [')']), m, by simp, hinner⟩

theorem IsWritten.countsNumbers {e : Text} (h : IsWritten p e) : CountsNumbers p := by
  cases h with
  | empty =>
    rintro before after hsplit
    simp at hsplit
  | symbols h => exact h.countsNumbers

end Picture

namespace Entry

open Picture

def Overcounts (text : Text) : Prop :=
  (∃ level, Clause.level text.words = .ok level) ∧
    ∃ failure, Picture.expand (Clause.picture text.words) = .error failure ∧ failure.IsFault

theorem read_fault_iff (text : Text) :
    (∃ failure, Entry.read text = .error failure ∧ failure.IsFault) ↔ Overcounts text := by
  unfold Entry.read Overcounts
  cases hlevel : Clause.level text.words with
  | error flaw => simp [hlevel, EntryFailure.IsFault]
  | ok level =>
    cases hexpand : Picture.expand (Clause.picture text.words) <;> simp [hlevel, hexpand]

/-- What is promised of an entry: it is read, or refused for a flaw. -/
def IsContained (outcome : Except EntryFailure Entry) : Prop :=
  (∃ entry, outcome = .ok entry) ∨ ∃ flaw, outcome = .error (.malformed flaw)

theorem isContained_iff (outcome : Except EntryFailure Entry) :
    IsContained outcome ↔ ¬ ∃ failure, outcome = .error failure ∧ failure.IsFault := by
  rcases outcome with failure | entry
  · cases failure <;> simp [IsContained, EntryFailure.IsFault]
  · simp [IsContained]

/-- What is known of the picture of an entry that is read: it has whole numbers for counts, and if it
is numeric, its sign and its digits can be told. -/
structure IsSound (entry : Entry) : Prop where
  counts : CountsNumbers entry.picture
  written : ∃ e, IsWritten entry.picture e ∧ entry.expanded = e.upper
  numeric : isNumericPlus entry.expanded = true →
    (isSigned? entry.expanded).isSome = true ∧ (integerDigits? entry.expanded).isSome = true ∧
      (fractionDigits? entry.expanded).isSome = true

/-- A text is read as an entry or refused for a flaw exactly as long as it has no level or its picture
does not strain; and a picture is accepted only with whole numbers for counts. -/
theorem read_contained_iff (text : Text) :
    (IsContained (read text) ↔
      ¬ ((∃ level, Clause.level text.words = .ok level) ∧ Strains (Clause.picture text.words))) ∧
    ∀ entry, read text = .ok entry → IsSound entry := by
  constructor
  · rw [isContained_iff, read_fault_iff, Overcounts, expand_fault_iff]
  · intro entry hread
    obtain ⟨-, -, e, hexpand, hupper⟩ := read_spec hread
    have hwritten := (expand_ok_iff _ _).mp hexpand
    refine ⟨hwritten.countsNumbers, ⟨e, hwritten, hupper⟩, fun hnumeric => ?_⟩
    simp [isSigned?, integerDigits?, fractionDigits?, hnumeric]

/-- A superscript looks like a number and is none. -/
theorem read_contained_iff_superscript : ¬ IsContained (read "05 A PIC 9(\u00B2)") ∧
    Strains "9(\u00B2)" ∧
    read "05 A PIC 9(\u00B2)" = .error (.numeral (.malformed ['\u00B2'])) := by
  have hread : read "05 A PIC 9(\u00B2)" = .error (.numeral (.malformed ['\u00B2'])) := by
    decide +kernel
  have hpicture : Clause.picture (Text.words "05 A PIC 9(\u00B2)") = "9(\u00B2)" := by
    decide +kernel
  have hnot : ¬ IsContained (read "05 A PIC 9(\u00B2)") := by
    rw [hread]
    simp [IsContained]
  have hstrains : Strains "9(\u00B2)" := by
    by_contra hno
    refine hnot ((read_contained_iff "05 A PIC 9(\u00B2)").1.mpr ?_)
    rw [hpicture]
    exact fun h => hno h.2
  exact ⟨hnot, hstrains, hread⟩

end Entry
end Copybook
