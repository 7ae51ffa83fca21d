import Copybook.Proofs.Text
import Copybook.Text.Numeral
import Mathlib.Tactic.Common

/-!
Numerals in digits of any script. Decimal digits are read as the number that they stand for, unless
they are too many; a digit of another kind, such as a superscript, is never read. -/
namespace Copybook

theorem isDigitLike_of_isDigit {c : Char} (h : c.isDigit = true) : isDigitLike c = true := by
  rw [isDigitLike, Digit.value?_of_isDigit h]
  rfl

theorem isBlank_of_isDigitLike {c : Char} (h : isDigitLike c = true) : isBlank c = false := by
  have hcodes : ∀ n ∈ Text.blankCodes, isDigitLike (Char.ofNat n) = false := by decide +kernel
  have hblanks : ∀ c, isBlank c = true → isDigitLike c = false := Text.forall_blank hcodes
  rw [Bool.eq_false_iff]
  intro hblank
  rw [hblanks c hblank] at h
  cases h

namespace Numeral

/-- The number that decimal digits stand for behind digits worth `start`. -/
def worth (start : Nat) (digits : Text) : Nat :=
  digits.foldl (fun n c => 10 * n + (Digit.value? c).getD 0) start

/-- A nonempty run of decimal digits, of whatever scripts, that stands for `n`. -/
structure Denotes (t : Text) (n : Nat) : Prop where
  ne_nil : t ≠ []
  decimal : ∀ c ∈ t, (Digit.value? c).isSome = true
  worth_eq : worth 0 t = n

variable {t digits : Text} {n : Nat}

theorem worth_cons {c : Char} {d : Nat} (h : Digit.value? c = some d) (start : Nat) (digits : Text) :
    worth start (c :: digits) = worth (10 * start + d) digits := by
  rw [worth, List.foldl_cons, h]
  rfl

theorem run_decimal (h : ∀ c ∈ digits, (Digit.value? c).isSome = true) (count start : Nat)
    (rest : Text) : run false count start (digits ++ rest) =
      run false (count + digits.length) (worth start digits) rest := by
  induction digits generalizing count start with
  | nil => rfl
  | cons c digits ih =>
    obtain ⟨hc, hdigits⟩ := List.forall_mem_cons.mp h
    obtain ⟨d, hd⟩ := Option.isSome_iff_exists.mp hc
    rw [List.cons_append, run, hd]
    dsimp only
    rw [ih hdigits, List.length_cons, worth_cons hd, Nat.add_assoc, Nat.add_comm 1]

theorem run_opening (hne : digits ≠ []) (h : ∀ c ∈ digits, (Digit.value? c).isSome = true)
    (rest : Text) :
    run true 0 0 (digits ++ rest) = run false digits.length (worth 0 digits) rest := by
  obtain ⟨c, others, rfl⟩ := List.exists_cons_of_ne_nil hne
  obtain ⟨hc, hothers⟩ := List.forall_mem_cons.mp h
  obtain ⟨d, hd⟩ := Option.isSome_iff_exists.mp hc
  rw [List.cons_append, run, hd]
  dsimp only
  rw [run_decimal hothers, List.length_cons, worth_cons hd, Nat.add_comm]

theorem Denotes.run_eq (h : Denotes t n) : run true 0 0 t = ⟨true, t.length, n, []⟩ := by
  have hrun := run_opening h.ne_nil h.decimal []
  rw [List.append_nil, h.worth_eq] at hrun
  exact hrun

theorem Denotes.isDigitLike (h : Denotes t n) : ∀ c ∈ t, isDigitLike c = true := by
  intro c hc
  simp [Copybook.isDigitLike, h.decimal c hc]

theorem not_isMargin {c : Char} (h : isDigitLike c = true) : isMargin c = false := by
  rw [isMargin, isBlank_of_isDigitLike h, Bool.false_and]

theorem read_digits (h : ∀ c ∈ t, isDigitLike c = true) : read t =
    if !(run true 0 0 t).sound then .error (.malformed t)
    else if digitLimit < (run true 0 0 t).digits then .error (.tooLong (run true 0 0 t).digits)
    else if (run true 0 0 t).rest.all isMargin then .ok (run true 0 0 t).value
    else .error (.malformed t) := by
  have hmargin : t.dropWhile isMargin = t := by
    cases t with
    | nil => rfl
    | cons c r => rw [List.dropWhile_cons, not_isMargin (h c List.mem_cons_self)]; rfl
  have hsign : sign t = (false, t) := by
    have hminus : isDigitLike '-' = false := by decide
    have hplus : isDigitLike '+' = false := by decide
    unfold sign
    split
    · exact absurd (h '-' List.mem_cons_self) (by rw [hminus]; exact Bool.false_ne_true)
    · exact absurd (h '+' List.mem_cons_self) (by rw [hplus]; exact Bool.false_ne_true)
    · rfl
  simp only [read, hmargin, hsign]
  rfl

theorem Denotes.read_eq (h : Denotes t n) : read t =
    if digitLimit < t.length then .error (.tooLong t.length) else .ok (n : Int) := by
  rw [read_digits h.isDigitLike, h.run_eq]
  rfl

theorem read_mark (hdigits : ∀ c ∈ t, isDigitLike c = true)
    (hmark : ∃ c ∈ t, (Digit.value? c).isSome = false) : ∃ problem, read t = .error problem := by
  have hfound : (t.find? fun c => !(Digit.value? c).isSome).isSome = true := by
    simpa using hmark
  obtain ⟨c, hfind⟩ := Option.isSome_iff_exists.mp hfound
  obtain ⟨hc, front, rest, rfl, hfront⟩ := List.find?_eq_some_iff_append.mp hfind
  have hnone : Digit.value? c = none := by simpa using hc
  have hlike : isDigitLike c = true := hdigits c (by simp)
  have hunderscore : c ≠ '_' := by
    rintro rfl
    exact absurd hlike (by decide)
  rw [read_digits hdigits]
  by_cases hne : front = []
  · subst hne
    rw [List.nil_append, run, hnone]
    exact ⟨.malformed (c :: rest), by simp⟩
  · rw [run_opening hne (by simpa using hfront), run, hnone]
    simp only [hunderscore, decide_false, Bool.false_and, Bool.false_eq_true, if_false,
      Bool.not_false, Bool.not_true, List.all_cons, not_isMargin hlike]
    split
    · exact ⟨_, rfl⟩
    · exact ⟨_, rfl⟩

end Numeral
end Copybook
