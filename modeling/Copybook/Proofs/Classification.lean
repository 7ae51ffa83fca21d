import Copybook.Entry
import Copybook.Proofs.Family

/-!
What picture and usage make of an entry. An entry whose picture can be written out is a number, an
alphabetic or an alphanumeric item exactly when its symbols say so, in whatever order the families
are tried; the usage decides about the rest. -/
namespace Copybook

namespace Category

def isNumeric (c : Category) : Bool :=
  c = .unsignedInt || c = .signedInt || c = .unsignedDecimal || c = .signedDecimal

def isSigned (c : Category) : Bool := c = .signedInt || c = .signedDecimal

end Category

namespace Usage

def singleWords : List Text := ["COMP-1", "COMPUTATIONAL-1"]

def doubleWords : List Text := ["COMP-2", "COMPUTATIONAL-2"]

theorem mem_spellings {word : Text} {usage : Usage} (h : ofWord? word = some usage) :
    (word, usage) ∈ spellings := by
  obtain ⟨before, after, hsplit, -⟩ := List.lookup_eq_some_iff.mp h
  simp [hsplit]

theorem isSingle_iff (phrase : Text) : isSingle phrase = true ↔ phrase.upper ∈ singleWords := by
  have hall : ∀ entry ∈ spellings, entry.2 = .single → entry.1 ∈ singleWords := by decide
  have hword : ∀ word ∈ singleWords, ofWord? word = some .single := by decide
  rw [isSingle, decide_eq_true_eq]
  exact ⟨fun h => hall _ (mem_spellings h) rfl, hword _⟩

theorem isDouble_iff (phrase : Text) : isDouble phrase = true ↔ phrase.upper ∈ doubleWords := by
  have hall : ∀ entry ∈ spellings, entry.2 = .double → entry.1 ∈ doubleWords := by decide
  have hword : ∀ word ∈ doubleWords, ofWord? word = some .double := by decide
  rw [isDouble, decide_eq_true_eq]
  exact ⟨fun h => hall _ (mem_spellings h) rfl, hword _⟩

end Usage

namespace Extent

open Picture

variable {e : Text}

theorem classify_number (he : e.IsUpper) (h : IsNumber e) (usage : Text) (declared : Bool) :
    classify e usage declared = numeric (e.any isSign) (markerPosition (removeSign e))
      ((removeSign e).length - markerPosition (removeSign e) - 1) := by
  have hnumeric := (isNumericPlus_iff he).mpr h
  simp [classify, isSigned?, integerDigits?, fractionDigits?, hnumeric, he.upper_eq]

theorem classify_other (he : e.IsUpper) (h : ¬ IsNumber e) (usage : Text) (declared : Bool) :
    classify e usage declared =
      if isAlphabetic e then ⟨some .alphabetic, e.length, 0⟩
      else if isAlphanumericPlus e then ⟨some .alphanumeric, characterCount e, 0⟩
      else if Usage.isSingle usage then ⟨some .single, 0, 0⟩
      else if Usage.isDouble usage then ⟨some .double, 0, 0⟩
      else if declared then ⟨some .unclassified, 0, 0⟩
      else ⟨none, 0, 0⟩ := by
  have hnumeric : isNumericPlus e = false := by
    rw [← Bool.not_eq_true, isNumericPlus_iff he]
    exact h
  simp [classify, isSigned?, hnumeric]

theorem classify_alphabetic (he : e.IsUpper) (h : IsAlphabet e) (usage : Text) (declared : Bool) :
    classify e usage declared = ⟨some .alphabetic, e.length, 0⟩ := by
  rw [classify_other he (fun hn => hn.not_isAlphabet h), if_pos ((isAlphabetic_iff he).mpr h)]

theorem classify_alphanumeric (he : e.IsUpper) (h : IsMixed e) (usage : Text) (declared : Bool) :
    classify e usage declared = ⟨some .alphanumeric, characterCount e, 0⟩ := by
  have hnumber : ¬ IsNumber e := fun hn => hn.not_isMixed h
  have halphabet : ¬ isAlphabetic e = true := by
    rw [isAlphabetic_iff he]
    exact fun ha => ha.not_isMixed h
  rw [classify_other he hnumber, if_neg halphabet, if_pos ((isAlphanumericPlus_iff he).mpr h)]

def usageCategory (usage : Text) (declared : Bool) : Option Category :=
  if usage.upper ∈ Usage.singleWords then some .single
  else if usage.upper ∈ Usage.doubleWords then some .double
  else if declared then some .unclassified
  else none

theorem usage_extent (usage : Text) (declared : Bool) :
    (if Usage.isSingle usage then ⟨some .single, 0, 0⟩
      else if Usage.isDouble usage then ⟨some .double, 0, 0⟩
      else if declared then ⟨some .unclassified, 0, 0⟩
      else ⟨none, 0, 0⟩ : Extent) = ⟨usageCategory usage declared, 0, 0⟩ := by
  simp only [Usage.isSingle_iff, Usage.isDouble_iff, usageCategory]
  split_ifs <;> rfl

theorem classify_usage (he : e.IsUpper) (hnumber : ¬ IsNumber e) (halphabet : ¬ IsAlphabet e)
    (hmixed : ¬ IsMixed e) (usage : Text) (declared : Bool) :
    classify e usage declared = ⟨usageCategory usage declared, 0, 0⟩ := by
  rw [← isAlphabetic_iff he] at halphabet
  rw [← isAlphanumericPlus_iff he] at hmixed
  rw [classify_other he hnumber, if_neg halphabet, if_neg hmixed, usage_extent]

theorem usageCategory_plain {usage : Text} {declared : Bool} {c : Category}
    (h : usageCategory usage declared = some c) :
    c = .single ∨ c = .double ∨ c = .unclassified := by
  unfold usageCategory at h
  split_ifs at h <;> simp_all

theorem numeric_spec (signed : Bool) (whole fraction : Nat) :
    ∃ c, (numeric signed whole fraction).category = some c ∧ c.isNumeric = true ∧
      c.isSigned = signed ∧ (c.isDecimal = true ↔ 0 < fraction) ∧
      (numeric signed whole fraction).scale = fraction ∧
      (numeric signed whole fraction).size = whole + fraction := by
  unfold numeric
  by_cases h : 0 < fraction
  · rw [if_pos h]
    cases signed
    · exact ⟨.unsignedDecimal, rfl, rfl, rfl, by simp [Category.isDecimal, h], rfl, rfl⟩
    · exact ⟨.signedDecimal, rfl, rfl, rfl, by simp [Category.isDecimal, h], rfl, rfl⟩
  · obtain rfl : fraction = 0 := by omega
    rw [if_neg h]
    cases signed
    · exact ⟨.unsignedInt, rfl, rfl, rfl, by decide, rfl, rfl⟩
    · exact ⟨.signedInt, rfl, rfl, rfl, by decide, rfl, rfl⟩

end Extent

namespace Entry

open Picture

/-- What is said of an entry whose picture is, written out and in capitals, `e`. -/
structure IsClassified (entry : Entry) (e : Text) : Prop where
  number : (∃ c, entry.category = some c ∧ c.isNumeric = true) ↔ IsNumber e
  alphabetic : entry.category = some .alphabetic ↔ IsAlphabet e
  alphanumeric : entry.category = some .alphanumeric ↔ IsMixed e
  exclusive : [IsNumber e, IsAlphabet e, IsMixed e].Pairwise fun p q => ¬ (p ∧ q)
  otherwise : ¬ IsNumber e → ¬ IsAlphabet e → ¬ IsMixed e → entry.category =
    Extent.usageCategory entry.usagePhrase (!entry.picture.isEmpty || !entry.usagePhrase.isEmpty)
  signed : (∃ c, entry.category = some c ∧ c.isSigned = true) ↔
    IsNumber e ∧ ∃ c ∈ e, c ∈ signSymbols
  decimal : (∃ c, entry.category = some c ∧ c.isDecimal = true) ↔ 0 < entry.scale
  digits : IsNumber e → e.countP (fun c => c ∈ markerSymbols) ≤ 1 →
    e.countP (fun c => c ∈ signSymbols) ≤ 1 →
    entry.scale = digitCount (fromMarker e) ∧ entry.size = digitCount e
  letters : IsAlphabet e → entry.size = e.length
  characters : IsMixed e → entry.size = e.countP fun c => c ∈ ['A', 'X', '9']

theorem families_exclusive (e : Text) :
    [IsNumber e, IsAlphabet e, IsMixed e].Pairwise fun p q => ¬ (p ∧ q) := by
  have hfirst : ∀ q ∈ [IsAlphabet e, IsMixed e], ¬ (IsNumber e ∧ q) := by
    simp only [List.mem_cons, List.not_mem_nil, or_false]
    rintro q (rfl | rfl) ⟨hnumber, hother⟩
    · exact hnumber.not_isAlphabet hother
    · exact hnumber.not_isMixed hother
  have hsecond : ¬ (IsAlphabet e ∧ IsMixed e) := fun h => h.1.not_isMixed h.2
  exact .cons hfirst (List.pairwise_pair.mpr hsecond)

section

variable {entry : Entry} (he : entry.expanded.IsUpper)
include he

theorem isClassified_number (h : IsNumber entry.expanded) :
    entry.IsClassified entry.expanded := by
  obtain ⟨c, hcategory, hnumeric, hsigned, hdecimal, hscale, hsize⟩ := Extent.numeric_spec
    (entry.expanded.any isSign) (markerPosition (removeSign entry.expanded))
    ((removeSign entry.expanded).length - markerPosition (removeSign entry.expanded) - 1)
  rw [← Extent.classify_number he h entry.usagePhrase
    (!entry.picture.isEmpty || !entry.usagePhrase.isEmpty)] at hcategory hscale hsize
  change entry.category = some c at hcategory
  change entry.scale = _ at hscale
  change entry.size = _ at hsize
  have hplain : c ≠ .alphabetic ∧ c ≠ .alphanumeric := by
    constructor <;> rintro rfl <;> cases hnumeric
  refine ⟨?_, ?_, ?_, families_exclusive _, fun hn => absurd h hn, ?_, ?_, ?_, ?_, ?_⟩
  · simp [hcategory, hnumeric, h]
  · simp [hcategory, hplain, h.not_isAlphabet]
  · simp [hcategory, hplain, h.not_isMixed]
  · simp [hcategory, hsigned, isSign_iff, h]
  · simp [hcategory, hdecimal, hscale]
  · intro _ hmarkers hsigns
    obtain ⟨front, figures, back, hparts⟩ := h
    obtain ⟨hall, hfraction⟩ := hparts.positions he hsigns hmarkers
    exact ⟨hscale.trans hfraction, hsize.trans hall⟩
  · exact fun ha => absurd ha h.not_isAlphabet
  · exact fun hm => absurd hm h.not_isMixed

theorem isClassified_alphabetic (h : IsAlphabet entry.expanded) :
    entry.IsClassified entry.expanded := by
  have hextent : entry.extent = _ := Extent.classify_alphabetic he h _ _
  have hnumber : ¬ IsNumber entry.expanded := fun hn => hn.not_isAlphabet h
  refine ⟨?_, ?_, ?_, families_exclusive _, fun _ ha => absurd h ha, ?_, ?_, ?_, ?_, ?_⟩
  · simp [category, hextent, Category.isNumeric, hnumber]
  · simp [category, hextent, h]
  · simp [category, hextent, h.not_isMixed]
  · simp [category, hextent, Category.isSigned, hnumber]
  · simp [category, scale, hextent, Category.isDecimal]
  · exact fun hn => absurd hn hnumber
  · simp [size, hextent]
  · exact fun hm => absurd hm h.not_isMixed

theorem isClassified_alphanumeric (h : IsMixed entry.expanded) :
    entry.IsClassified entry.expanded := by
  have hextent : entry.extent = _ := Extent.classify_alphanumeric he h _ _
  have hnumber : ¬ IsNumber entry.expanded := fun hn => hn.not_isMixed h
  have halphabet : ¬ IsAlphabet entry.expanded := fun ha => ha.not_isMixed h
  refine ⟨?_, ?_, ?_, families_exclusive _, fun _ _ hm => absurd h hm, ?_, ?_, ?_, ?_, ?_⟩
  · simp [category, hextent, Category.isNumeric, hnumber]
  · simp [category, hextent, halphabet]
  · simp [category, hextent, h]
  · simp [category, hextent, Category.isSigned, hnumber]
  · simp [category, scale, hextent, Category.isDecimal]
  · exact fun hn => absurd hn hnumber
  · exact fun ha => absurd ha halphabet
  · simp [size, hextent, characterCount_mixed he h]

theorem isClassified_usage (hnumber : ¬ IsNumber entry.expanded)
    (halphabet : ¬ IsAlphabet entry.expanded) (hmixed : ¬ IsMixed entry.expanded) :
    entry.IsClassified entry.expanded := by
  have hextent : entry.extent = _ := Extent.classify_usage he hnumber halphabet hmixed _ _
  have hplain : ∀ c, entry.category = some c → c = .single ∨ c = .double ∨ c = .unclassified := by
    intro c hc
    rw [category, hextent] at hc
    exact Extent.usageCategory_plain hc
  have hnone : ∀ p : Category → Bool, p .single = false → p .double = false →
      p .unclassified = false → ¬ ∃ c, entry.category = some c ∧ p c = true := by
    rintro p hsingle hdouble hrest ⟨c, hc, hp⟩
    rcases hplain c hc with rfl | rfl | rfl <;> simp_all
  refine ⟨?_, ?_, ?_, families_exclusive _, fun _ _ _ => ?_, ?_, ?_, ?_, ?_, ?_⟩
  · simp [hnone Category.isNumeric rfl rfl rfl, hnumber]
  · simp only [halphabet, iff_false]
    intro hc
    simpa using hplain _ hc
  · simp only [hmixed, iff_false]
    intro hc
    simpa using hplain _ hc
  · rw [category, hextent]
  · simp [hnone Category.isSigned rfl rfl rfl, hnumber]
  · have hscale : entry.scale = 0 := by rw [scale, hextent]
    simp [hnone Category.isDecimal rfl rfl rfl, hscale]
  · exact fun hn => absurd hn hnumber
  · exact fun ha => absurd ha halphabet
  · exact fun hm => absurd hm hmixed

theorem isClassified_expanded : entry.IsClassified entry.expanded := by
  by_cases hnumber : IsNumber entry.expanded
  · exact isClassified_number he hnumber
  by_cases halphabet : IsAlphabet entry.expanded
  · exact isClassified_alphabetic he halphabet
  by_cases hmixed : IsMixed entry.expanded
  · exact isClassified_alphanumeric he hmixed
  exact isClassified_usage he hnumber halphabet hmixed

end

theorem read_spec {text : Text} {entry : Entry} (h : Entry.read text = .ok entry) :
    entry.picture = Clause.picture text.words ∧ entry.usagePhrase = Clause.usage text.words ∧
      ∃ e, Picture.expand entry.picture = .ok e ∧ entry.expanded = e.upper := by
  simp only [Entry.read] at h
  split at h
  · cases h
  · split at h
    · cases h
    · cases h
      exact ⟨rfl, rfl, _, ‹_›, rfl⟩

theorem isUpper_of_read {text : Text} {entry : Entry} (h : Entry.read text = .ok entry) :
    entry.expanded.IsUpper := by
  obtain ⟨-, -, e, -, hexpanded⟩ := read_spec h
  rw [hexpanded]
  exact Text.isUpper_upper e

/-- An entry that begins with a level number and whose picture can be written out is classified by
the symbols of the picture, and by its usage when the picture is of no family. -/
theorem read_classified {text expanded : Text}
    (h : Picture.expand (Clause.picture text.words) = .ok expanded) :
    (∃ flaw, Clause.level text.words = .error flaw ∧ Entry.read text = .error (.malformed flaw)) ∨
      ∃ entry, Entry.read text = .ok entry ∧ entry.picture = Clause.picture text.words ∧
        entry.usagePhrase = Clause.usage text.words ∧ entry.IsClassified expanded.upper := by
  cases hlevel : Clause.level text.words with
  | error flaw => exact .inl ⟨flaw, rfl, by rw [Entry.read, hlevel]⟩
  | ok level =>
    right
    have hread : Entry.read text = .ok ⟨level, Clause.name text.words, Clause.picture text.words,
        Clause.usage text.words, Clause.value text.words, expanded.upper⟩ := by
      simp only [Entry.read, hlevel, h]
    exact ⟨_, hread, rfl, rfl, isClassified_expanded (Text.isUpper_upper expanded)⟩

def signedText : Text := "05 TOTAL PIC s9(3)v99 COMP-3"

/-- A signed number of five digits, two of which stand behind the marker. -/
theorem read_classified_signed :
    Picture.expand (Clause.picture signedText.words) = .ok "s999v99" ∧
      ∃ entry, Entry.read signedText = .ok entry ∧ entry.IsClassified "S999V99" ∧
        entry.category = some .signedDecimal ∧ entry.scale = 2 ∧ entry.size = 5 := by
  have hexpand : Picture.expand (Clause.picture signedText.words) = .ok "s999v99" := by
    decide +kernel
  have hlevel : Clause.level signedText.words = .ok 5 := by decide +kernel
  refine ⟨hexpand, ?_⟩
  rcases read_classified hexpand with ⟨flaw, hflaw, -⟩ | ⟨entry, hread, -, -, hclassified⟩
  · simp [hlevel] at hflaw
  · have hupper : Text.upper "s999v99" = "S999V99" := by decide
    rw [hupper] at hclassified
    have hparts : HasParts "S999V99" "S" "999V99" [] :=
      ⟨rfl, .inr ⟨'S', by decide, rfl⟩, by decide, by decide, .inl rfl⟩
    obtain ⟨hscale, hsize⟩ := hclassified.digits ⟨_, _, _, hparts⟩ (by decide) (by decide)
    obtain ⟨c, hc, hsigned⟩ := hclassified.signed.mpr ⟨⟨_, _, _, hparts⟩, 'S', by decide⟩
    obtain ⟨d, hd, hdecimal⟩ := hclassified.decimal.mpr (by rw [hscale]; decide)
    obtain rfl : c = d := Option.some.inj (hc.symm.trans hd)
    have hboth : ∀ c : Category, c.isSigned = true → c.isDecimal = true → c = .signedDecimal := by
      intro c
      cases c <;> decide
    rw [hboth c hsigned hdecimal] at hc
    exact ⟨entry, hread, hclassified, hc, hscale, hsize⟩

end Entry
end Copybook
