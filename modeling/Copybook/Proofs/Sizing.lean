import Copybook.Harvest
import Copybook.Proofs.Classification
import Copybook.Proofs.Placeholder
import Copybook.Proofs.Template

/-!
Rules that compute with the size and the scale of an entry. In a rule of plain text and of spans that
hold formulas with numbers and these two measures, every span comes to the value of its formula: it
makes no difference whether the measures are put in as texts before the formula is read, or as numbers
when it is worked out. For decimal pictures the difference of the measures counts the digits before the
marker. -/
namespace Copybook
namespace Rule

/-- What a formula is made of: numbers, and the measures of an entry. -/
inductive Operand
  | numeral (d : Digits)
  | size
  | scale

structure Formula where
  first : Operand
  rest : List (Operator × Operand)

def IsPlainText (t : Text) : Prop := '%' ∉ t ∧ '[' ∉ t

/-- A span that holds a formula, with the text behind it up to the next span. -/
structure SizedSpan where
  formula : Formula
  behind : Text
  behind_plain : IsPlainText behind

structure SizedRule where
  front : Text
  spans : List SizedSpan
  front_plain : IsPlainText front

namespace Operand

def text : Operand → Text
  | numeral d => d.text
  | size => "%size%"
  | scale => "%scale%"

def value (size scale : Nat) : Operand → Nat
  | numeral d => d.value
  | .size => size
  | .scale => scale

def digits (size scale : Nat) : Operand → Digits
  | numeral d => d
  | .size => .ofNat size
  | .scale => .ofNat scale

theorem value_digits (size scale : Nat) (o : Operand) :
    (o.digits size scale).value = o.value size scale := by
  cases o with
  | numeral d => rfl
  | size => exact Digits.value_ofNat size
  | scale => exact Digits.value_ofNat scale

theorem not_percent (d : Digits) : '%' ∉ d.text := fun h => absurd (d.isDigit _ h) (by decide)

theorem size_plain : '%' ∉ ("size" : Text) := by decide

theorem scale_plain : '%' ∉ ("scale" : Text) := by decide

def segment : Operand → Segment
  | numeral d => .plain d.text (not_percent d)
  | size => .slot "size" size_plain
  | scale => .slot "scale" scale_plain

end Operand

namespace Formula

def text (f : Formula) : Text := f.first.text ++ f.rest.flatMap fun term => term.1.mark :: term.2.text

def value (size scale : Nat) (f : Formula) : Int :=
  f.rest.foldl (fun sum term => term.1.apply sum (term.2.value size scale)) (f.first.value size scale)

/-- The formula with the measures written as numbers. -/
def expression (size scale : Nat) (f : Formula) : Expression where
  first := f.first.digits size scale
  rest := f.rest.map fun term => (term.1, term.2.digits size scale)

theorem value_expression (size scale : Nat) (f : Formula) :
    (f.expression size scale).value = f.value size scale := by
  simp only [expression, Expression.value, value, List.foldl_map, Operand.value_digits]

theorem not_percent (o : Operator) : '%' ∉ [o.mark] := by cases o <;> decide

def segments (f : Formula) : List Segment :=
  f.first.segment :: f.rest.flatMap fun term => [.plain [term.1.mark] (not_percent _), term.2.segment]

end Formula

namespace SizedSpan

def text (s : SizedSpan) : Text := opening ++ s.formula.text ++ closing ++ s.behind

def result (size scale : Nat) (s : SizedSpan) : Text :=
  Text.ofInt (s.formula.value size scale) ++ s.behind

def segments (s : SizedSpan) : List Segment :=
  .plain opening (by decide) :: s.formula.segments ++
    [.plain closing (by decide), .plain s.behind s.behind_plain.1]

end SizedSpan

namespace SizedRule

def text (r : SizedRule) : Text := r.front ++ r.spans.flatMap SizedSpan.text

/-- The rule with the values of its formulas in the places of the spans. -/
def result (size scale : Nat) (r : SizedRule) : Text :=
  r.front ++ r.spans.flatMap (SizedSpan.result size scale)

def segments (r : SizedRule) : List Segment :=
  .plain r.front r.front_plain.1 :: r.spans.flatMap SizedSpan.segments

/-- Whether neither a number of a formula nor what a formula comes to is too long for a numeral. -/
def IsBounded (size scale : Nat) (r : SizedRule) : Prop :=
  ∀ s ∈ r.spans, (s.formula.expression size scale).IsBounded

end SizedRule

/-- Whether a rule comes to a text, in whatever store and under whatever name it is kept. -/
def ComesTo (values : List (Text × Text)) (rule result : Text) : Prop :=
  ∀ (store : Store) (category name default : Option Text), store.rule category name = .text rule →
    resolve store category name values default = ⟨[], .ok (some result)⟩

/-! ### Expressions as they are read -/

theorem Expression.mem_text {e : Expression} {c : Char} (h : c ∈ e.text) :
    c.isDigit = true ∨ isSign c = true := by
  rw [Expression.text, List.mem_append, List.mem_flatMap] at h
  rcases h with h | ⟨term, -, h⟩
  · exact .inl (e.first.isDigit c h)
  · rcases List.mem_cons.mp h with rfl | h
    · exact .inr ((Operator.isSign_iff _).mpr ⟨term.1, rfl⟩)
    · exact .inl (term.2.isDigit c h)

theorem Expression.trim_text (e : Expression) : e.text.trim = e.text := by
  apply Text.trim_of_forall
  intro c hc
  rcases e.mem_text hc with hdigit | hsign
  · exact isBlank_of_isDigit hdigit
  · obtain ⟨o, rfl⟩ := (Operator.isSign_iff c).mp hsign
    cases o <;> decide

theorem Expression.not_closing (e : Expression) : ¬ closing <:+: e.text := by
  intro h
  rcases e.mem_text (h.subset (List.mem_cons_self : '!' ∈ closing)) with h | h <;> cases h

theorem IsPlainText.not_opening {t : Text} (h : IsPlainText t) : ¬ opening <:+: t := fun ho =>
  h.2 (ho.subset (List.mem_cons_self : '[' ∈ opening))

/-- A span of a rule as it is read when the measures have been put in. -/
def SizedSpan.span (size scale : Nat) (s : SizedSpan) : Span where
  inside := (s.formula.expression size scale).text
  expression := s.formula.expression size scale
  behind := s.behind
  inside_closing := (s.formula.expression size scale).not_closing
  expression_text := (s.formula.expression size scale).trim_text.symm
  behind_opening := s.behind_plain.not_opening

def SizedRule.reading (size scale : Nat) (r : SizedRule) : Reading where
  front := r.front
  spans := r.spans.map (SizedSpan.span size scale)
  front_opening := r.front_plain.not_opening

theorem SizedRule.reading_result (size scale : Nat) (r : SizedRule) :
    (r.reading size scale).result = r.result size scale := by
  have hspan : ∀ s : SizedSpan, (s.span size scale).result = s.result size scale := by
    intro s
    rw [Span.result, SizedSpan.span, Formula.value_expression]
    rfl
  simp only [Reading.result, SizedRule.reading, List.flatMap_map, hspan, SizedRule.result]

theorem SizedRule.IsBounded.reading {size scale : Nat} {r : SizedRule} (h : r.IsBounded size scale) :
    (r.reading size scale).IsBounded := by
  intro span hspan
  obtain ⟨s, hs, rfl⟩ := List.mem_map.mp hspan
  exact h s hs

/-! ### Placeholders of a rule -/

section

variable {keys : List Text} {rest : List Segment}

theorem separated_true {apart : Bool} (h : separated keys apart rest = true) :
    separated keys true rest = true := by
  induction rest generalizing apart with
  | nil => rfl
  | cons s rest ih =>
    cases s with
    | plain t ht => exact ih h
    | slot key hkey => exact (Bool.and_eq_true _ _).mp h |>.2

theorem separated_foreign {t : Text} (ht : '%' ∉ t) (hforeign : t.any (isForeign keys) = true)
    (apart : Bool) : separated keys apart (.plain t ht :: rest) = separated keys true rest := by
  rw [separated, hforeign, Bool.or_true]

theorem separated_operand (h : separated keys false rest = true) (o : Operand) :
    separated keys true (o.segment :: rest) = true := by
  cases o with
  | numeral d =>
    have hplain : separated keys true rest = true := separated_true h
    exact hplain
  | size => exact h
  | scale => exact h

end

def ruleKeys : List Text := ["type", "size", "scale", "usage"]

theorem separated_formula (f : Formula) {rest : List Segment}
    (h : separated ruleKeys false rest = true) :
    separated ruleKeys true (f.segments ++ rest) = true := by
  obtain ⟨first, terms⟩ := f
  apply separated_operand
  induction terms with
  | nil => exact h
  | cons term terms ih =>
    have hmark : [term.1.mark].any (isForeign ruleKeys) = true := by
      cases term.1 <;> decide
    change separated ruleKeys false (.plain [term.1.mark] _ :: term.2.segment :: _) = true
    rw [separated_foreign _ hmark]
    exact separated_operand ih term.2

theorem separated_rule (r : SizedRule) : separated ruleKeys true r.segments = true := by
  obtain ⟨front, spans, hfront⟩ := r
  have hspans : separated ruleKeys true (spans.flatMap SizedSpan.segments) = true := by
    induction spans with
    | nil => rfl
    | cons s spans ih =>
      have hopening : opening.any (isForeign ruleKeys) = true := by decide
      have hclosing : closing.any (isForeign ruleKeys) = true := by decide
      rw [List.flatMap_cons, SizedSpan.segments, List.append_assoc, List.cons_append,
        separated_foreign _ hopening]
      apply separated_formula
      change separated ruleKeys false (.plain closing _ :: .plain s.behind _ :: _) = true
      rw [separated_foreign _ hclosing]
      exact ih
  exact hspans

/-! ### Putting the measures in -/

theorem flatMap_segments (f : Segment → Text) (r : SizedRule)
    (hplain : ∀ t ht, f (.plain t ht) = t) : r.segments.flatMap f =
      r.front ++ r.spans.flatMap fun s => opening ++ (f s.formula.first.segment ++
        s.formula.rest.flatMap fun term => term.1.mark :: f term.2.segment) ++ closing ++ s.behind := by
  simp [SizedRule.segments, SizedSpan.segments, Formula.segments, List.flatMap_assoc, hplain]

theorem segments_text (r : SizedRule) : r.segments.flatMap Segment.text = r.text := by
  have hoperand : ∀ o : Operand, o.segment.text = o.text := by
    intro o
    cases o <;> rfl
  rw [flatMap_segments _ _ fun _ _ => rfl]
  simp only [hoperand]
  rfl

theorem segments_forall {P : Segment → Prop} (hplain : ∀ t ht, P (.plain t ht))
    (hoperand : ∀ o : Operand, P o.segment) (r : SizedRule) : ∀ s ∈ r.segments, P s := by
  simp only [SizedRule.segments, SizedSpan.segments, Formula.segments, List.cons_append,
    List.forall_mem_cons, List.mem_flatMap]
  refine ⟨hplain _ _, ?_⟩
  rintro s ⟨span, -, hs⟩
  simp only [List.mem_cons, List.mem_append, List.mem_flatMap, List.not_mem_nil, or_false] at hs
  rcases hs with rfl | rfl | ⟨term, -, rfl | rfl⟩ | rfl | rfl
  · exact hplain _ _
  · exact hoperand _
  · exact hplain _ _
  · exact hoperand _
  · exact hplain _ _
  · exact hplain _ _

section

variable (e : Entry)

theorem filled_operand (o : Operand) :
    o.segment.filled (Harvest.ruleValues e) = (o.digits e.size e.scale).text := by
  cases o <;> rfl

theorem segments_filled (r : SizedRule) :
    r.segments.flatMap (Segment.filled (Harvest.ruleValues e)) =
      (r.reading e.size e.scale).text := by
  rw [flatMap_segments _ _ fun _ _ => rfl]
  simp only [filled_operand, Reading.text, SizedRule.reading, List.flatMap_map]
  simp only [Span.text, SizedSpan.span, Expression.text, Formula.expression, List.flatMap_map,
    Expression.operatorText]

theorem suits_operand (o : Operand) : o.segment.Suits (Harvest.ruleValues e) := by
  cases o with
  | numeral d => trivial
  | size =>
    rintro value ⟨⟩
    exact Operand.not_percent (.ofNat e.size)
  | scale =>
    rintro value ⟨⟩
    exact Operand.not_percent (.ofNat e.scale)

theorem substitute_sized (r : SizedRule) :
    substitute (Harvest.ruleValues e) r.text = (r.reading e.size e.scale).text := by
  have hnames : (Harvest.ruleValues e).map (·.1) = ruleKeys := rfl
  have hplain : ∀ key ∈ ruleKeys, '%' ∉ key := by decide
  have hkeys : ∀ entry ∈ Harvest.ruleValues e, entry.1 ∈ ruleKeys ∧ '%' ∉ entry.1 := by
    intro entry hentry
    have hkey : entry.1 ∈ ruleKeys := hnames ▸ List.mem_map_of_mem hentry
    exact ⟨hkey, hplain _ hkey⟩
  have hdistinct : ((Harvest.ruleValues e).map (·.1)).Nodup := by
    rw [hnames]
    decide
  have hsuits : ∀ s ∈ r.segments, s.Suits (Harvest.ruleValues e) :=
    segments_forall (fun _ _ => trivial) (suits_operand e) r
  have hfilled : substitute (Harvest.ruleValues e) (r.segments.flatMap (Segment.filled [])) =
      r.segments.flatMap (Segment.filled (Harvest.ruleValues e)) :=
    substitute_filled (separated_rule r) hkeys hdistinct hsuits
  rw [← segments_text, flatMap_text, hfilled, segments_filled]

theorem comesTo_sized {r : SizedRule} (h : r.IsBounded e.size e.scale) :
    ComesTo (Harvest.ruleValues e) r.text (r.result e.size e.scale) := by
  intro store category name default hrule
  have hprocess : process (substitute (Harvest.ruleValues e) r.text) =
      .ok (r.result e.size e.scale) := by
    rw [substitute_sized, process_text h.reading, SizedRule.reading_result]
  simp only [resolve, hrule, hprocess]
  rfl

end

/-! ### Digits before and behind the marker -/

open Picture

def untilMarker (expanded : Text) : Text := expanded.takeWhile fun c => c ∉ markerSymbols

theorem digitCount_untilMarker (expanded : Text) :
    digitCount (untilMarker expanded) + digitCount (fromMarker expanded) = digitCount expanded := by
  rw [← digitCount_append, untilMarker, fromMarker, List.takeWhile_append_dropWhile]

theorem length_ofNat_le {m n : Nat} (h : m ≤ n) :
    (Text.ofNat m).length ≤ (Text.ofNat n).length := by
  have hpositive : 0 < (Text.ofNat n).length := Nat.length_toDigits_pos
  have hn : n < 10 ^ (Text.ofNat n).length :=
    (Nat.length_toDigits_le_iff (by decide) hpositive).mp le_rfl
  exact (Nat.length_toDigits_le_iff (by decide) hpositive).mpr (h.trans_lt hn)

def SizedRule.ofFormula (f : Formula) : SizedRule where
  front := []
  spans := [⟨f, [], by decide, by decide⟩]
  front_plain := ⟨by decide, by decide⟩

theorem comesTo_formula {e : Entry} {f : Formula} {n : Nat}
    (hlimit : (Text.ofNat e.size).length ≤ Numeral.digitLimit) (hn : n ≤ e.size)
    (hvalue : f.value e.size e.scale = n)
    (hoperands : ∀ d ∈ (f.expression e.size e.scale).operands,
      ∃ m ≤ e.size, d = .ofNat m) :
    ComesTo (Harvest.ruleValues e) (SizedRule.ofFormula f).text (Text.ofNat n) := by
  have hshort : ∀ m ≤ e.size, (Text.ofNat m).length ≤ Numeral.digitLimit := fun m hm =>
    (length_ofNat_le hm).trans hlimit
  have hbounded : (SizedRule.ofFormula f).IsBounded e.size e.scale := by
    intro span hspan
    obtain rfl := List.mem_singleton.mp hspan
    constructor
    · intro d hd
      obtain ⟨m, hm, rfl⟩ := hoperands d hd
      exact hshort m hm
    · rw [Formula.value_expression, hvalue]
      exact hshort n hn
  have hresult : (SizedRule.ofFormula f).result e.size e.scale = Text.ofNat n := by
    simp [SizedRule.ofFormula, SizedRule.result, SizedSpan.result, hvalue, Text.ofInt]
  rw [← hresult]
  exact comesTo_sized e hbounded

/-- The rule for what the scale leaves of the size. -/
def wholeRule : Text := "[!%size%-%scale%!]"

def fractionRule : Text := "[!%scale%!]"

theorem comesTo_whole {e : Entry} (hlimit : (Text.ofNat e.size).length ≤ Numeral.digitLimit)
    {whole : Nat} (h : whole + e.scale = e.size) :
    ComesTo (Harvest.ruleValues e) wholeRule (Text.ofNat whole) := by
  have hvalue : Formula.value e.size e.scale ⟨.size, [(.minus, .scale)]⟩ = whole := by
    simp only [Formula.value, Operand.value, Operator.apply, List.foldl_cons, List.foldl_nil]
    omega
  apply comesTo_formula hlimit (by omega) hvalue
  intro d hd
  rcases List.mem_pair.mp hd with rfl | rfl
  · exact ⟨e.size, le_rfl, rfl⟩
  · exact ⟨e.scale, by omega, rfl⟩

theorem comesTo_fraction {e : Entry} (hlimit : (Text.ofNat e.size).length ≤ Numeral.digitLimit)
    (h : e.scale ≤ e.size) :
    ComesTo (Harvest.ruleValues e) fractionRule (Text.ofNat e.scale) := by
  apply comesTo_formula hlimit h (f := ⟨.scale, []⟩) rfl
  intro d hd
  obtain rfl := List.mem_singleton.mp hd
  exact ⟨e.scale, h, rfl⟩

/-- A rule of plain text and formulas comes to the values of the formulas at the size and the scale
of the entry. For a decimal picture with one marker their difference is the number of digits before
the marker, and the scale the number of those behind it. -/
theorem resolve_sized {text : Text} {e : Entry} (hread : Entry.read text = .ok e) :
    (∀ rule : SizedRule, rule.IsBounded e.size e.scale →
      ComesTo (Harvest.ruleValues e) rule.text (rule.result e.size e.scale)) ∧
    (e.category = some .unsignedDecimal ∨ e.category = some .signedDecimal →
      e.expanded.countP (fun c => c ∈ markerSymbols) = 1 →
      e.expanded.countP (fun c => c ∈ signSymbols) ≤ 1 →
      (Text.ofNat e.size).length ≤ Numeral.digitLimit →
      ComesTo (Harvest.ruleValues e) wholeRule (Text.ofNat (digitCount (untilMarker e.expanded))) ∧
      ComesTo (Harvest.ruleValues e) fractionRule
        (Text.ofNat (digitCount (fromMarker e.expanded)))) := by
  have hclassified := Entry.isClassified_expanded (Entry.isUpper_of_read hread)
  refine ⟨fun rule h => comesTo_sized e h, fun hcategory hmarkers hsigns hlimit => ?_⟩
  have hnumber : IsNumber e.expanded := by
    rw [← hclassified.number]
    rcases hcategory with h | h
    · exact ⟨_, h, rfl⟩
    · exact ⟨_, h, rfl⟩
  obtain ⟨hscale, hsize⟩ := hclassified.digits hnumber hmarkers.le hsigns
  have hparts := digitCount_untilMarker e.expanded
  rw [← hscale, ← hsize] at hparts
  rw [← hscale]
  exact ⟨comesTo_whole hlimit hparts, comesTo_fraction hlimit (by omega)⟩

/-- What is read from `s9(3)v99 COMP-3`: five digits, two of them behind the marker. -/
def sampleEntry : Entry := ⟨5, "TOTAL", "s9(3)v99", "COMP-3", [], "S999V99"⟩

def sampleRule : SizedRule where
  front := "DECIMAL("
  spans := [⟨⟨.size, [(.minus, .scale)]⟩, ",", by decide, by decide⟩,
    ⟨⟨.numeral (.ofNat 1), [(.plus, .scale)]⟩, ")", by decide, by decide⟩]
  front_plain := ⟨by decide, by decide⟩

def sampleStore : Store := (Table.empty .null).add (some "data-type") (some "SNUM")
  (.text "DECIMAL([!%size%-%scale%!],[!1+%scale%!])")

theorem resolve_sized_sample :
    Entry.read "05 TOTAL PIC s9(3)v99 COMP-3" = .ok sampleEntry ∧
      sampleRule.IsBounded sampleEntry.size sampleEntry.scale ∧
      sampleEntry.category = some .signedDecimal ∧
      sampleEntry.expanded.countP (fun c => c ∈ Picture.markerSymbols) = 1 ∧
      sampleEntry.expanded.countP (fun c => c ∈ Picture.signSymbols) ≤ 1 ∧
      (Text.ofNat sampleEntry.size).length ≤ Numeral.digitLimit ∧
      resolve sampleStore (some "data-type") (some "SNUM") (Harvest.ruleValues sampleEntry) none =
        ⟨[], .ok (some "DECIMAL(3,3)")⟩ ∧
      ComesTo (Harvest.ruleValues sampleEntry) wholeRule "3" ∧
      ComesTo (Harvest.ruleValues sampleEntry) fractionRule "2" := by
  have hread : Entry.read "05 TOTAL PIC s9(3)v99 COMP-3" = .ok sampleEntry := by decide +kernel
  have hbounded : sampleRule.IsBounded sampleEntry.size sampleEntry.scale := by
    intro span hspan
    rcases List.mem_pair.mp hspan with rfl | rfl
    · exact ⟨by decide +kernel, by decide +kernel⟩
    · exact ⟨by decide +kernel, by decide +kernel⟩
  have hcategory : sampleEntry.category = some .signedDecimal := by decide +kernel
  have hmarkers : sampleEntry.expanded.countP (fun c => c ∈ Picture.markerSymbols) = 1 := by decide
  have hsigns : sampleEntry.expanded.countP (fun c => c ∈ Picture.signSymbols) ≤ 1 := by decide
  have hlimit : (Text.ofNat sampleEntry.size).length ≤ Numeral.digitLimit := by decide +kernel
  obtain ⟨hsized, hdecimal⟩ := resolve_sized hread
  obtain ⟨hwhole, hfraction⟩ := hdecimal (.inr hcategory) hmarkers hsigns hlimit
  exact ⟨hread, hbounded, hcategory, hmarkers, hsigns, hlimit,
    hsized sampleRule hbounded sampleStore _ _ none (by rfl), hwhole, hfraction⟩

end Rule
end Copybook
