import Copybook.Proofs.Numeral
import Copybook.Proofs.Result
import Copybook.Rule.Template
import Mathlib.Data.Nat.Digits.Defs
import Mathlib.Tactic.Ring

/-!
Expressions and their values. The texts that are valid are those of expressions, the operands found in
such a text are those of its expression, each with its sign, and their sum is what the expression comes
to from left to right. -/
namespace Copybook
namespace Rule

structure Digits where
  text : Text
  ne_nil : text ≠ []
  isDigit : ∀ c ∈ text, c.isDigit = true

/-- The number that a run of digits stands for behind digits worth `start`. -/
def valueFrom (start : Nat) (digits : Text) : Nat :=
  digits.foldl (fun n c => 10 * n + (c.toNat - 48)) start

namespace Digits

def value (d : Digits) : Nat := valueFrom 0 d.text

def ofNat (n : Nat) : Digits where
  text := Text.ofNat n
  ne_nil := List.length_pos_iff.mp Nat.length_toDigits_pos
  isDigit := fun _ hc => Nat.isDigit_of_mem_toDigits (by decide) (by decide) hc

theorem value_ofNat (n : Nat) : (ofNat n).value = n := Nat.ofDigitChars_ten_toDigits

end Digits

inductive Operator
  | plus | minus
  deriving DecidableEq, Repr

namespace Operator

def mark : Operator → Char
  | .plus => '+'
  | .minus => '-'

def apply : Operator → Int → Int → Int
  | .plus, m, n => m + n
  | .minus, m, n => m - n

theorem isSign_iff (c : Char) : isSign c = true ↔ ∃ o : Operator, o.mark = c := by
  constructor
  · intro h
    simp only [isSign, Bool.or_eq_true, decide_eq_true_eq] at h
    rcases h with rfl | rfl
    · exact ⟨.plus, rfl⟩
    · exact ⟨.minus, rfl⟩
  · rintro ⟨o, rfl⟩
    cases o <;> rfl

theorem add_apply_zero (o : Operator) (m n : Int) : m + o.apply 0 n = o.apply m n := by
  cases o <;> simp only [apply] <;> omega

end Operator

/-- An operand, and further ones behind operators. -/
structure Expression where
  first : Digits
  rest : List (Operator × Digits)

namespace Expression

def operatorText (term : Operator × Digits) : Text := term.1.mark :: term.2.text

def text (e : Expression) : Text := e.first.text ++ e.rest.flatMap operatorText

def operands (e : Expression) : List Digits := e.first :: e.rest.map (·.2)

def value (e : Expression) : Int :=
  e.rest.foldl (fun sum term => term.1.apply sum term.2.value) e.first.value

/-- Expressions of which neither an operand nor the value is too long for a numeral. -/
structure IsBounded (e : Expression) : Prop where
  operands : ∀ d ∈ e.operands, d.text.length ≤ Numeral.digitLimit
  value : (Text.ofNat e.value.natAbs).length ≤ Numeral.digitLimit

end Expression

/-! ### Validity -/

theorem isValidFrom_digits {digits : Text} (h : ∀ c ∈ digits, c.isDigit = true) (t : Text) :
    isValidFrom true (digits ++ t) = isValidFrom true t := by
  induction digits with
  | nil => rfl
  | cons c r ih =>
    obtain ⟨hc, hr⟩ := List.forall_mem_cons.mp h
    rw [List.cons_append, isValidFrom, if_pos hc, ih hr]

theorem isValidFrom_operand (d : Digits) (counted : Bool) (t : Text) :
    isValidFrom counted (d.text ++ t) = isValidFrom true t := by
  obtain ⟨text, hne, hdigits⟩ := d
  cases text with
  | nil => exact absurd rfl hne
  | cons c r =>
    obtain ⟨hc, hr⟩ := List.forall_mem_cons.mp hdigits
    change isValidFrom counted (c :: (r ++ t)) = _
    rw [isValidFrom, if_pos hc, isValidFrom_digits hr]

theorem isValidFrom_rest (rest : List (Operator × Digits)) :
    isValidFrom true (rest.flatMap Expression.operatorText) = true := by
  induction rest with
  | nil => rfl
  | cons term rest ih =>
    obtain ⟨o, d⟩ := term
    have hmark : isValidFrom true (o.mark :: (d.text ++ rest.flatMap Expression.operatorText)) =
        isValidFrom false (d.text ++ rest.flatMap Expression.operatorText) := by
      cases o <;> rfl
    rw [List.flatMap_cons, Expression.operatorText, List.cons_append, hmark, isValidFrom_operand, ih]

/-- What is valid behind a digit is the rest of an expression, after further digits; what is valid
elsewhere is an expression. -/
theorem exists_of_isValidFrom (t : Text) :
    (isValidFrom true t = true → ∃ (digits : Text) (rest : List (Operator × Digits)),
      (∀ c ∈ digits, c.isDigit = true) ∧ t = digits ++ rest.flatMap Expression.operatorText) ∧
    (isValidFrom false t = true → ∃ e : Expression, e.text = t) := by
  induction t with
  | nil => exact ⟨fun _ => ⟨[], [], by simp, rfl⟩, fun h => nomatch h⟩
  | cons c r ih =>
    obtain ⟨hcounted, hfresh⟩ := ih
    by_cases hc : c.isDigit = true
    · simp only [isValidFrom, if_pos hc]
      constructor
      · intro h
        obtain ⟨digits, rest, hdigits, rfl⟩ := hcounted h
        exact ⟨c :: digits, rest, List.forall_mem_cons.mpr ⟨hc, hdigits⟩, rfl⟩
      · intro h
        obtain ⟨digits, rest, hdigits, rfl⟩ := hcounted h
        exact ⟨⟨⟨c :: digits, by simp, List.forall_mem_cons.mpr ⟨hc, hdigits⟩⟩, rest⟩, rfl⟩
    · simp only [isValidFrom, if_neg hc, Bool.and_true, Bool.and_false, Bool.false_and,
        Bool.and_eq_true, Bool.false_eq_true, false_implies, and_true]
      rintro ⟨hsign, h⟩
      obtain ⟨o, rfl⟩ := (Operator.isSign_iff c).mp hsign
      obtain ⟨e, rfl⟩ := hfresh h
      exact ⟨[], (o, e.first) :: e.rest, by simp, rfl⟩

theorem isValid_iff (t : Text) : isValid t = true ↔ ∃ e : Expression, e.text = t := by
  constructor
  · exact (exists_of_isValidFrom t).2
  · rintro ⟨e, rfl⟩
    rw [isValid, Expression.text, isValidFrom_operand, isValidFrom_rest]

/-! ### Operands -/

theorem operandsFrom_digits {digits : Text} (h : ∀ c ∈ digits, c.isDigit = true) (held t : Text) :
    operandsFrom held (digits ++ t) = operandsFrom (digits.reverse ++ held) t := by
  induction digits generalizing held with
  | nil => rfl
  | cons c r ih =>
    obtain ⟨hc, hr⟩ := List.forall_mem_cons.mp h
    rw [List.cons_append, operandsFrom, if_pos hc, ih hr, List.reverse_cons, List.append_assoc]
    rfl

theorem operandOf_digits (d : Digits) (held : Text) :
    operandOf (d.text.reverse ++ held) = [held.reverse ++ d.text] := by
  cases hreverse : d.text.reverse with
  | nil => exact absurd (List.reverse_eq_nil_iff.mp hreverse) d.ne_nil
  | cons c r =>
    have hc : c.isDigit = true := by
      apply d.isDigit
      rw [← List.mem_reverse, hreverse]
      exact List.mem_cons_self
    have htext : d.text = (c :: r).reverse := by rw [← hreverse, List.reverse_reverse]
    rw [List.cons_append, operandOf, if_pos hc, htext]
    simp

theorem operandsFrom_rest (d : Digits) (held : Text) (rest : List (Operator × Digits)) :
    operandsFrom (d.text.reverse ++ held) (rest.flatMap Expression.operatorText) =
      (held.reverse ++ d.text) :: rest.map Expression.operatorText := by
  induction rest generalizing d held with
  | nil => rw [List.flatMap_nil, operandsFrom, operandOf_digits, List.map_nil]
  | cons term rest ih =>
    obtain ⟨o, next⟩ := term
    have hmark : o.mark.isDigit = false ∧ isSign o.mark = true := by cases o <;> decide
    rw [List.flatMap_cons, Expression.operatorText, List.cons_append, operandsFrom, hmark.1,
      hmark.2, operandOf_digits]
    simp only [Bool.false_eq_true, if_false, if_true]
    rw [operandsFrom_digits next.isDigit, ih]
    rfl

theorem operands_text (e : Expression) :
    Rule.operands e.text = e.first.text :: e.rest.map Expression.operatorText := by
  rw [Rule.operands, Expression.text, operandsFrom_digits e.first.isDigit, operandsFrom_rest]
  rfl

/-! ### Values -/

theorem isDigit_range {c : Char} (h : c.isDigit = true) : 48 ≤ c.toNat ∧ c.toNat ≤ 57 := by
  simpa [Char.isDigit, UInt32.le_iff_toNat_le] using h

theorem worth_digits {digits : Text} (h : ∀ c ∈ digits, c.isDigit = true) (start : Nat) :
    Numeral.worth start digits = valueFrom start digits := by
  induction digits generalizing start with
  | nil => rfl
  | cons c r ih =>
    obtain ⟨hc, hr⟩ := List.forall_mem_cons.mp h
    rw [Numeral.worth_cons (Digit.value?_of_isDigit hc), ih hr]
    rfl

theorem Digits.denotes (d : Digits) : Numeral.Denotes d.text d.value where
  ne_nil := d.ne_nil
  decimal := fun c hc => by rw [Digit.value?_of_isDigit (d.isDigit c hc)]; rfl
  worth_eq := worth_digits d.isDigit 0

theorem isBlank_of_isDigit {c : Char} (h : c.isDigit = true) : isBlank c = false :=
  isBlank_of_isDigitLike (isDigitLike_of_isDigit h)

theorem Digits.trim_text (d : Digits) : d.text.trim = d.text :=
  Text.trim_of_forall fun c hc => isBlank_of_isDigit (d.isDigit c hc)

theorem read_operand {d : Digits} (h : d.text.length ≤ Numeral.digitLimit) :
    Numeral.read d.text = .ok d.value := by
  rw [d.denotes.read_eq, if_neg (Nat.not_lt.mpr h)]

theorem read_signed (o : Operator) {d : Digits} (h : d.text.length ≤ Numeral.digitLimit) :
    Numeral.read (Expression.operatorText (o, d)) = .ok (o.apply 0 d.value) := by
  have hmargin : (o.mark :: d.text).dropWhile Numeral.isMargin = o.mark :: d.text := by
    cases o <;> rfl
  have hsign : Numeral.sign (o.mark :: d.text) = (decide (o = .minus), d.text) := by
    cases o <;> rfl
  simp only [Expression.operatorText, Numeral.read, hmargin, hsign, d.denotes.run_eq,
    Nat.not_lt.mpr h]
  cases o <;> simp [Operator.apply]

theorem sumFrom_rest {rest : List (Operator × Digits)}
    (h : ∀ term ∈ rest, term.2.text.length ≤ Numeral.digitLimit) (sum : Int) :
    sumFrom sum (rest.map Expression.operatorText) =
      .ok (rest.foldl (fun sum term => term.1.apply sum term.2.value) sum) := by
  induction rest generalizing sum with
  | nil => rfl
  | cons term rest ih =>
    obtain ⟨hfirst, hlater⟩ := List.forall_mem_cons.mp h
    rw [List.map_cons, sumFrom, read_signed term.1 hfirst]
    dsimp only
    rw [ih hlater, Operator.add_apply_zero, List.foldl_cons]

theorem compute_text {e : Expression} (h : e.IsBounded) :
    compute e.text = .ok (Text.ofInt e.value) := by
  obtain ⟨hfirst, hlater⟩ := List.forall_mem_cons.mp h.operands
  have hsum : sumFrom 0 (Rule.operands e.text) = .ok e.value := by
    rw [operands_text, sumFrom, read_operand hfirst]
    dsimp only
    rw [Int.zero_add, sumFrom_rest fun term hterm => hlater _ (List.mem_map_of_mem hterm)]
    rfl
  rw [compute, hsum]
  exact if_neg (Nat.not_lt.mpr h.value)

/-! ### Limits -/

theorem valueFrom_lt {digits : Text} (h : ∀ c ∈ digits, c.isDigit = true) {start width : Nat}
    (hstart : start < 10 ^ width) : valueFrom start digits < 10 ^ (width + digits.length) := by
  induction digits generalizing start width with
  | nil => exact hstart
  | cons c r ih =>
    obtain ⟨hc, hr⟩ := List.forall_mem_cons.mp h
    have hrange := isDigit_range hc
    have hnext : 10 * start + (c.toNat - 48) < 10 ^ (width + 1) := by
      rw [Nat.pow_succ]
      omega
    have hlater := ih hr hnext
    rwa [Nat.add_assoc, Nat.add_comm 1] at hlater

theorem Digits.value_lt (d : Digits) : d.value < 10 ^ d.text.length := by
  have hzero : 0 < 10 ^ 0 := by decide
  have h := valueFrom_lt d.isDigit hzero
  rwa [Nat.zero_add] at h

theorem natAbs_foldl_lt (rest : List (Operator × Digits)) (sum : Int) {width : Nat}
    (hsum : sum.natAbs < 10 ^ width) :
    (rest.foldl (fun sum term => term.1.apply sum term.2.value) sum).natAbs <
      10 ^ (width + (rest.flatMap Expression.operatorText).length) := by
  induction rest generalizing sum width with
  | nil => exact hsum
  | cons term rest ih =>
    obtain ⟨o, d⟩ := term
    have hd := d.value_lt
    have hpow : 10 ^ width + 10 ^ d.text.length ≤ 10 ^ (width + (d.text.length + 1)) := by
      have hwidth : 0 < 10 ^ width := Nat.pow_pos (by decide)
      have hlength : 0 < 10 ^ d.text.length := Nat.pow_pos (by decide)
      rw [Nat.pow_add, Nat.pow_succ]
      nlinarith
    have hnext : (o.apply sum d.value).natAbs < 10 ^ (width + (d.text.length + 1)) := by
      cases o <;> simp only [Operator.apply] <;> omega
    have hlater := ih _ hnext
    rw [List.foldl_cons, List.flatMap_cons, List.length_append, Expression.operatorText,
      List.length_cons]
    rwa [Nat.add_assoc] at hlater

theorem Expression.length_value_le (e : Expression) :
    (Text.ofNat e.value.natAbs).length ≤ e.text.length := by
  have hlength : 0 < e.text.length := by
    have hfirst := List.length_pos_iff.mpr e.first.ne_nil
    rw [Expression.text, List.length_append]
    omega
  have hvalue := natAbs_foldl_lt e.rest e.first.value e.first.value_lt
  rw [← List.length_append] at hvalue
  exact (Nat.length_toDigits_le_iff (by decide) hlength).mpr hvalue

theorem Expression.isBounded_of_length {e : Expression} (h : e.text.length ≤ Numeral.digitLimit) :
    e.IsBounded := by
  refine ⟨fun d hd => ?_, e.length_value_le.trans h⟩
  refine le_trans ?_ h
  rw [Expression.text, List.length_append]
  rcases List.mem_cons.mp hd with rfl | hd
  · exact Nat.le_add_right _ _
  · obtain ⟨term, hterm, rfl⟩ := List.mem_map.mp hd
    have hsub : (operatorText term).length ≤ (e.rest.flatMap operatorText).length :=
      Text.length_le_flatMap hterm
    rw [operatorText, List.length_cons] at hsub
    omega

/-! ### Evaluation -/

/-- The valid texts are those of expressions. Apart from blanks around it, the text of an expression
evaluates to the expression's value in decimal, and every other text is refused. -/
theorem evaluate_value {t : Text} (h : ∀ e : Expression, e.text = t.trim → e.IsBounded) :
    (isValid t = true ↔ ∃ e : Expression, e.text = t) ∧
      (∀ e : Expression, e.text = t.trim → evaluate t = .ok (Text.ofInt e.value)) ∧
      ((∀ e : Expression, e.text ≠ t.trim) → (evaluate t).mapError TemplateFailure.toFailure =
        .error (.problem (.rule ("Invalid expression \"" ++ t.trim ++ "\"") none (some t.trim)))) := by
  refine ⟨isValid_iff t, ?_, ?_⟩
  · intro e he
    have hvalid : isValid t.trim = true := (isValid_iff _).mpr ⟨e, he⟩
    have hcompute := compute_text (h e he)
    rw [he] at hcompute
    simp only [evaluate, hvalid, hcompute, if_true, mapError_ok]
  · intro hnone
    have hinvalid : ¬ isValid t.trim = true := by
      rw [isValid_iff]
      rintro ⟨e, he⟩
      exact hnone e he
    have hrefused : evaluate t = .error (.invalid t.trim none) := if_neg hinvalid
    rw [hrefused]
    rfl

/-- Seven less nine and thirty, in which the first operand has a leading zero. -/
def sampleExpression : Expression where
  first := ⟨"07", by decide, by decide⟩
  rest := [(.minus, ⟨"9", by decide, by decide⟩), (.plus, ⟨"30", by decide, by decide⟩)]

theorem evaluate_value_sample :
    (∀ e : Expression, e.text = Text.trim " 07-9+30 " → e.IsBounded) ∧
      isValid " 07-9+30 " = false ∧ evaluate " 07-9+30 " = .ok (Text.ofInt sampleExpression.value) ∧
      sampleExpression.value = 28 := by
  have hbounded : ∀ e : Expression, e.text = Text.trim " 07-9+30 " → e.IsBounded := by
    intro e he
    apply Expression.isBounded_of_length
    rw [he]
    decide
  obtain ⟨-, hvalue, -⟩ := evaluate_value hbounded
  exact ⟨hbounded, by decide, hvalue sampleExpression (by decide), by decide⟩

end Rule
end Copybook
