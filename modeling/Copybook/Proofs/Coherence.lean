import Copybook.Proofs.Classification
import Copybook.Proofs.Clause
import Mathlib.Data.List.TFAE
import Mathlib.Tactic.TFAE

/-!
What holds of every entry that is read, whatever its text: its category, its numbers, its usage and the
names of its type agree. -/
namespace Copybook

namespace Case

theorem isBlank_of_mem_capital {c d : Char} (h : d ∈ capital c) (hc : isBlank c = false) :
    isBlank d = false := by
  have hcodes : ∀ n < 0x80, isBlank (Char.ofNat n) = false →
      isBlank (Char.ofNat n).toUpper = false := by decide +kernel
  have hlong : ∀ entry ∈ longCapitals, ∀ n ∈ entry.2, isBlank (Char.ofNat n) = false := by
    decide +kernel
  have hruns : ∀ r ∈ capitalRuns, ∀ n ∈ Text.blankCodes, n < r.lowest ∨ r.highest < n := by
    decide +kernel
  have hcapital := isCapital c
  generalize capital c = t at h hcapital
  cases hcapital with
  | ascii hascii =>
    obtain rfl := List.mem_singleton.mp h
    have hupper : ∀ c : Char, c.toNat < 0x80 → isBlank c = false → isBlank c.toUpper = false :=
      forall_ascii hcodes
    exact hupper c hascii hc
  | long _ hlisted =>
    obtain ⟨n, hn, rfl⟩ := List.mem_map.mp h
    exact hlong _ hlisted n hn
  | run _ hr hholds =>
    obtain rfl := List.mem_singleton.mp h
    rw [Bool.eq_false_iff]
    intro hblank
    have hlisted := Text.mem_blankCodes hblank
    rw [Run.toNat_move hr hholds] at hlisted
    obtain ⟨hlow, hhigh, -⟩ := Run.holds_spec hr hholds
    have hapart := hruns _ hr _ hlisted
    omega
  | unlisted =>
    obtain rfl := List.mem_singleton.mp h
    exact hc

end Case

namespace Clause

variable {keywords words : List Text} {word : Text}

theorem find?_subset {keyword : Text} {rest : List Text}
    (h : find? keywords words = some (keyword, rest)) : rest ⊆ words := by
  induction words with
  | nil => cases h
  | cons first words ih =>
    rw [find?] at h
    split at h
    · obtain ⟨-, rfl⟩ := Prod.mk.inj (Option.some.inj h)
      exact List.subset_cons_self _ _
    · exact List.subset_cons_of_subset _ (ih h)

theorem skip_subset (noise : Text) (words : List Text) : skip noise words ⊆ words := by
  cases words with
  | nil => exact List.Subset.refl _
  | cons first words =>
    rw [skip]
    split
    · exact List.subset_cons_self _ _
    · exact List.Subset.refl _

theorem operand_mem (h : operand keywords words = some word) : word = [] ∨ word ∈ words := by
  obtain ⟨⟨keyword, rest⟩, hfind, rfl⟩ := Option.map_eq_some_iff.mp h
  dsimp only
  cases hskip : skip "IS" rest with
  | nil => exact .inl rfl
  | cons first others =>
    have hmem : first ∈ skip "IS" rest := hskip ▸ List.mem_cons_self
    exact .inr (find?_subset hfind (skip_subset _ _ hmem))

theorem usage_mem (words : List Text) : usage words = [] ∨ usage words ∈ words := by
  unfold usage
  split
  · exact operand_mem ‹_›
  · cases hfind : words.find? Word.isUsageWord with
    | none => exact .inl rfl
    | some word => exact .inr (List.mem_of_find?_eq_some hfind)

theorem usage_solid (text : Text) : ∀ c ∈ usage text.words, isBlank c = false := by
  rcases usage_mem text.words with hnil | hmem
  · simp [hnil]
  · exact ((Text.spaced_words text).isWord _ hmem).solid

end Clause

namespace Usage

variable {phrase : Text}

theorem normalize_solid (h : ∀ c ∈ phrase, isBlank c = false) :
    normalize phrase = ((ofWord? phrase.upper).map name).getD phrase.upper := by
  rw [normalize, Text.trim_of_forall h]
  cases ofWord? phrase.upper <;> rfl

theorem normalize_name (usage : Usage) : normalize usage.name = usage.name := by
  cases usage <;> decide

theorem normalize_of_word {format : Usage} (hsolid : ∀ c ∈ phrase, isBlank c = false)
    (h : ofWord? phrase.upper = some format) : normalize phrase = format.name := by
  rw [normalize_solid hsolid, h, Option.map_some, Option.getD_some]

/-- The category that a floating point format gives without a picture. -/
def category? : Usage → Option Category
  | .single => some .single
  | .double => some .double
  | _ => none

theorem normalize_normalize (h : ∀ c ∈ phrase, isBlank c = false) :
    normalize (normalize phrase) = normalize phrase := by
  rw [normalize_solid h]
  cases hword : ofWord? phrase.upper with
  | some usage => exact normalize_name usage
  | none =>
    have hsolid : ∀ c ∈ phrase.upper, isBlank c = false := by
      intro d hd
      obtain ⟨c, hc, hmem⟩ := List.mem_flatMap.mp hd
      exact Case.isBlank_of_mem_capital hmem (h c hc)
    rw [Option.map_none, Option.getD_none, normalize_solid hsolid,
      (Text.isUpper_upper phrase).upper_eq, hword, Option.map_none, Option.getD_none]

end Usage

namespace Extent

theorem usageCategory_float {format : Usage} {usage : Text} {declared : Bool} {c : Category}
    (hformat : format.category? = some c) (h : usageCategory usage declared = some c) :
    Usage.ofWord? usage.upper = some format := by
  have hsingle := Usage.isSingle_iff usage
  have hdouble := Usage.isDouble_iff usage
  simp only [Usage.isSingle, Usage.isDouble, decide_eq_true_eq] at hsingle hdouble
  unfold usageCategory at h
  split_ifs at h with hs hd hdeclared
  · cases h
    cases format <;> cases hformat
    exact hsingle.mpr hs
  · cases h
    cases format <;> cases hformat
    exact hdouble.mpr hd
  · cases h
    cases format <;> cases hformat

theorem usageCategory_eq_none {usage : Text} {declared : Bool} (h : usageCategory usage declared = none) :
    declared = false := by
  unfold usageCategory at h
  split_ifs at h with hs hd hdeclared
  exact Bool.eq_false_iff.mpr hdeclared

theorem classify_cases (expanded usage : Text) (declared : Bool) :
    (∃ signed whole fraction, classify expanded usage declared = numeric signed whole fraction) ∨
      (∃ length, classify expanded usage declared = ⟨some .alphabetic, length, 0⟩) ∨
      (∃ count, classify expanded usage declared = ⟨some .alphanumeric, count, 0⟩) ∨
      classify expanded usage declared = ⟨usageCategory usage declared, 0, 0⟩ := by
  unfold classify
  split
  · exact .inl ⟨_, _, _, rfl⟩
  · by_cases halphabetic : Picture.isAlphabetic expanded = true
    · exact .inr (.inl ⟨_, if_pos halphabetic⟩)
    by_cases hmixed : Picture.isAlphanumericPlus expanded = true
    · rw [if_neg halphabetic]
      exact .inr (.inr (.inl ⟨_, if_pos hmixed⟩))
    · rw [if_neg halphabetic, if_neg hmixed]
      exact .inr (.inr (.inr (usage_extent _ _)))

end Extent

namespace Entry

/-- What the parts of an entry say of each other. -/
structure IsCoherent (e : Entry) : Prop where
  decimal : 0 < e.scale ↔ e.category = some .unsignedDecimal ∨ e.category = some .signedDecimal
  scale_le : e.scale ≤ e.size
  untyped : List.TFAE [e.category = none, e.picture = [] ∧ e.usagePhrase = [], e.typeName = [],
    e.declaredType = []]
  single : e.category = some .single → e.usage = "COMP-1" ∧ e.size = 0
  double : e.category = some .double → e.usage = "COMP-2" ∧ e.size = 0
  usage_normal : Usage.normalize e.usage = e.usage
  sized : e.size ≠ 0 → ∃ c, e.category = some c ∧
    (c.isNumeric = true ∨ c = .alphabetic ∨ c = .alphanumeric)

variable (e : Entry)

theorem extent_cases :
    (∃ signed whole fraction, e.extent = Extent.numeric signed whole fraction) ∨
      (∃ length, e.extent = ⟨some .alphabetic, length, 0⟩) ∨
      (∃ count, e.extent = ⟨some .alphanumeric, count, 0⟩) ∨
      e.extent = ⟨Extent.usageCategory e.usagePhrase
        (!e.picture.isEmpty || !e.usagePhrase.isEmpty), 0, 0⟩ :=
  Extent.classify_cases _ _ _

theorem kind_cases :
    (∃ c, e.category = some c ∧ c.isNumeric = true ∧ (c.isDecimal = true ↔ 0 < e.scale) ∧
        e.scale ≤ e.size) ∨
      (e.scale = 0 ∧ (e.category = some .alphabetic ∨ e.category = some .alphanumeric)) ∨
      (e.scale = 0 ∧ e.size = 0 ∧ e.category = Extent.usageCategory e.usagePhrase
        (!e.picture.isEmpty || !e.usagePhrase.isEmpty)) := by
  unfold category scale size
  rcases e.extent_cases with ⟨signed, whole, fraction, h⟩ | ⟨length, h⟩ | ⟨count, h⟩ | h
  · obtain ⟨c, hcategory, hnumeric, -, hdecimal, hscale, hsize⟩ :=
      Extent.numeric_spec signed whole fraction
    rw [h]
    exact .inl ⟨c, hcategory, hnumeric, by rw [hscale]; exact hdecimal, by omega⟩
  · rw [h]
    exact .inr (.inl ⟨rfl, .inl rfl⟩)
  · rw [h]
    exact .inr (.inl ⟨rfl, .inr rfl⟩)
  · rw [h]
    exact .inr (.inr ⟨rfl, rfl, rfl⟩)

theorem scale_pos_iff :
    0 < e.scale ↔ e.category = some .unsignedDecimal ∨ e.category = some .signedDecimal := by
  rcases e.kind_cases with ⟨c, hc, -, hdecimal, -⟩ | ⟨hscale, hc | hc⟩ | ⟨hscale, -, hc⟩
  · rw [← hdecimal, hc]
    simp [Category.isDecimal]
  · simp [hscale, hc]
  · simp [hscale, hc]
  · rw [hscale, hc]
    constructor
    · exact fun h => absurd h (Nat.lt_irrefl 0)
    · rintro (h | h)
      · simpa using Extent.usageCategory_plain h
      · simpa using Extent.usageCategory_plain h

theorem scale_le_size : e.scale ≤ e.size := by
  rcases e.kind_cases with ⟨_, _, _, _, hle⟩ | ⟨hscale, -⟩ | ⟨hscale, -, -⟩
  · exact hle
  · exact hscale ▸ Nat.zero_le _
  · exact hscale ▸ Nat.zero_le _

theorem category_of_size_ne_zero (h : e.size ≠ 0) : ∃ c, e.category = some c ∧
    (c.isNumeric = true ∨ c = .alphabetic ∨ c = .alphanumeric) := by
  rcases e.kind_cases with ⟨c, hc, hnumeric, -⟩ | ⟨-, hc | hc⟩ | ⟨-, hsize, -⟩
  · exact ⟨c, hc, .inl hnumeric⟩
  · exact ⟨_, hc, .inr (.inl rfl)⟩
  · exact ⟨_, hc, .inr (.inr rfl)⟩
  · exact absurd hsize h

theorem category_eq_usage (h : ∀ c, e.category = some c →
    c.isNumeric = false ∧ c ≠ .alphabetic ∧ c ≠ .alphanumeric) :
    e.size = 0 ∧ e.category = Extent.usageCategory e.usagePhrase
      (!e.picture.isEmpty || !e.usagePhrase.isEmpty) := by
  rcases e.kind_cases with ⟨c, hc, hnumeric, -⟩ | ⟨-, hc | hc⟩ | ⟨-, hsize, hc⟩
  · rw [(h c hc).1] at hnumeric
    cases hnumeric
  · exact absurd rfl (h _ hc).2.1
  · exact absurd rfl (h _ hc).2.2
  · exact ⟨hsize, hc⟩

theorem float_spec (format : Usage) {c : Category} (hformat : format.category? = some c)
    (hsolid : ∀ d ∈ e.usagePhrase, isBlank d = false) (h : e.category = some c) :
    e.usage = format.name ∧ e.size = 0 := by
  have hplain : c.isNumeric = false ∧ c ≠ .alphabetic ∧ c ≠ .alphanumeric := by
    cases format <;> cases hformat <;> decide
  obtain ⟨hsize, hcategory⟩ := e.category_eq_usage fun d hd => by
    obtain rfl : d = c := Option.some.inj (hd.symm.trans h)
    exact hplain
  have hword := Extent.usageCategory_float hformat (hcategory.symm.trans h)
  have hphrase : e.usagePhrase.isEmpty = false := by
    cases hnil : e.usagePhrase with
    | nil =>
      have hnone : Usage.ofWord? (Text.upper []) = none := by decide
      rw [hnil, hnone] at hword
      cases hword
    | cons d r => rfl
  refine ⟨?_, hsize⟩
  rw [usage, hphrase]
  exact Usage.normalize_of_word hsolid hword

theorem usage_normal (hsolid : ∀ d ∈ e.usagePhrase, isBlank d = false) :
    Usage.normalize e.usage = e.usage := by
  unfold usage
  split
  · decide
  · exact Usage.normalize_normalize hsolid

theorem typeName_eq_nil_iff : e.typeName = [] ↔ e.category = none := by
  have hname : ∀ c : Category, c.name ≠ [] := by
    intro c
    cases c <;> decide
  unfold typeName
  split
  · rename_i hc
    exact iff_of_true rfl hc
  · rename_i hc
    refine iff_of_false ?_ (by rw [hc]; exact Option.some_ne_none _)
    rw [List.append_assoc, List.append_assoc]
    exact List.append_ne_nil_of_left_ne_nil (hname _) _
  · rename_i c _ hc
    exact iff_of_false (hname c) (by rw [hc]; exact Option.some_ne_none _)

theorem declaredType_eq_nil_iff :
    e.declaredType = [] ↔ e.picture = [] ∧ e.usagePhrase = [] := by
  unfold declaredType
  cases e.picture with
  | nil => cases e.usagePhrase <;> simp [Text.join]
  | cons c r => cases e.usagePhrase <;> simp [Text.join]

theorem category_eq_none_iff (hexpanded : e.picture = [] → e.expanded = []) :
    e.category = none ↔ e.picture = [] ∧ e.usagePhrase = [] := by
  constructor
  · intro h
    obtain ⟨-, hcategory⟩ := e.category_eq_usage fun c hc => by
      rw [h] at hc
      cases hc
    have hdeclared := Extent.usageCategory_eq_none (hcategory.symm.trans h)
    simpa using hdeclared
  · rintro ⟨hpicture, hphrase⟩
    rw [category, extent, hexpanded hpicture, hpicture, hphrase]
    decide

/-- The parts of every entry that is read agree. -/
theorem read_coherent {text : Text} {e : Entry} (h : read text = .ok e) : e.IsCoherent := by
  obtain ⟨-, hphrase, expanded, hexpand, hexpanded⟩ := read_spec h
  have hsolid : ∀ c ∈ e.usagePhrase, isBlank c = false := hphrase ▸ Clause.usage_solid text
  have hnil : e.picture = [] → e.expanded = [] := by
    intro hpicture
    rw [hpicture] at hexpand
    cases hexpand
    exact hexpanded
  refine ⟨e.scale_pos_iff, e.scale_le_size, ?_, e.float_spec .single rfl hsolid,
    e.float_spec .double rfl hsolid, e.usage_normal hsolid, e.category_of_size_ne_zero⟩
  tfae_have 1 ↔ 2 := e.category_eq_none_iff hnil
  tfae_have 3 ↔ 1 := e.typeName_eq_nil_iff
  tfae_have 4 ↔ 2 := e.declaredType_eq_nil_iff
  tfae_finish

/-- A rate of single precision, under a long spelling of its format. -/
def rate : Entry := ⟨5, "RATE", [], "computational-1", [], []⟩

/-- The usage of the rate is reported by its short name, and the rate has no digits. -/
theorem read_coherent_rate : read "05 RATE USAGE IS computational-1" = .ok rate ∧
    rate.category = some .single ∧ rate.usage = "COMP-1" ∧ rate.size = 0 := by
  have hread : read "05 RATE USAGE IS computational-1" = .ok rate := by decide +kernel
  have hcategory : rate.category = some .single := by decide
  exact ⟨hread, hcategory, (read_coherent hread).single hcategory⟩

end Entry
end Copybook
