import Copybook.Proofs.Classification

/-!
Positions of numeric pictures. The positions that are counted on both sides of the decimal marker are
what is left of a picture without one sign and one marker. So they are its digits as long as it has no
second sign and no second marker, and each further one is counted as if it were a digit. -/
namespace Copybook
namespace Picture

def digitLetters : List Char := ['0', 'Z', 'z', '9']

def digitPositions (e : Text) : Nat := e.countP fun c => c ∈ digitLetters

def signCount (e : Text) : Nat := e.countP (capitalIn signSymbols)

def markerCount (e : Text) : Nat := e.countP (capitalIn markerSymbols)

variable {e front figures back : Text}

theorem capitalIn_iff (symbols : List Char) (c : Char) :
    capitalIn symbols c = true ↔ ∃ d ∈ symbols, Case.capital c = [d] := by
  unfold capitalIn
  split
  · rename_i d hd
    simp [hd]
  · rename_i hnone
    simp only [Bool.false_eq_true, false_iff, not_exists, not_and]
    exact fun d _ hd => hnone d hd

theorem capitalIn_apart {symbols others : List Char} (h : ∀ d ∈ symbols, d ∉ others) {c : Char}
    (hc : capitalIn symbols c = true) : capitalIn others c = false := by
  rw [Bool.eq_false_iff]
  intro hother
  obtain ⟨d, hd, hcapital⟩ := (capitalIn_iff _ _).mp hc
  obtain ⟨d', hd', hcapital'⟩ := (capitalIn_iff _ _).mp hother
  obtain rfl : d = d' := List.singleton_inj.mp (hcapital.symm.trans hcapital')
  exact h d hd hd'

theorem capitalIn_digits (c : Char) :
    capitalIn digitSymbols c = true ↔ c ∈ digitLetters := by
  have hcodes : ∀ n < 0x80, (capitalIn digitSymbols (Char.ofNat n) = true ↔
      Char.ofNat n ∈ digitLetters) := by decide +kernel
  have hsymbols : ∀ d ∈ digitSymbols, d ≠ 'I' ∧ d ≠ 'S' ∧ d.toNat < 0x80 := by decide
  have hletters : ∀ d ∈ digitLetters, d.toNat < 0x80 := by decide
  have hnarrow : capitalIn digitSymbols c = true ∨ c ∈ digitLetters → c.toNat < 0x80 := by
    rintro (h | h)
    · obtain ⟨d, hd, hcapital⟩ := (capitalIn_iff _ _).mp h
      exact Case.narrow_of_capital (hsymbols d hd) hcapital
    · exact hletters c h
  have hascii : ∀ c : Char, c.toNat < 0x80 →
      (capitalIn digitSymbols c = true ↔ c ∈ digitLetters) := Case.forall_ascii hcodes
  exact ⟨fun h => (hascii c (hnarrow (.inl h))).mp h, fun h => (hascii c (hnarrow (.inr h))).mpr h⟩

theorem eq_of_capital {c d : Char} (hd : d ∈ ['+', '-', '.']) (h : Case.capital c = [d]) : c = d := by
  have hcodes : ∀ n < 0x80, ∀ d ∈ ['+', '-', '.'],
      Case.capital (Char.ofNat n) = [d] → Char.ofNat n = d := by decide +kernel
  have hsymbols : ∀ d ∈ ['+', '-', '.'], d ≠ 'I' ∧ d ≠ 'S' ∧ d.toNat < 0x80 := by decide
  have hascii : ∀ c : Char, c.toNat < 0x80 → ∀ d ∈ ['+', '-', '.'], Case.capital c = [d] → c = d :=
    Case.forall_ascii hcodes
  exact hascii c (Case.narrow_of_capital (hsymbols d hd) h) d hd h

/-! ### Pictures as they are written -/

/-- A numeric picture in its parts, in capital or small letters. -/
structure HasWrittenParts (e front figures back : Text) : Prop where
  whole : e = front ++ (figures ++ back)
  front : front = [] ∨ ∃ c, capitalIn signSymbols c = true ∧ front = [c]
  nonempty : figures ≠ []
  figures : ∀ c ∈ figures, capitalIn (digitSymbols ++ markerSymbols) c = true
  back : back = [] ∨ back = ['+'] ∨ back = ['-']

theorem HasParts.mem_tail (h : HasParts e front figures back) {c : Char} (hc : c ∈ e.tail) :
    c ∈ digitSymbols ++ (markerSymbols ++ ['+', '-']) := by
  have hbehind : ∀ c ∈ figures ++ back, c ∈ digitSymbols ++ (markerSymbols ++ ['+', '-']) := by
    intro c hc
    rcases List.mem_append.mp hc with hc | hc
    · have hfigure := h.figures c hc
      simp only [List.mem_append]
      exact hfigure.imp_right .inl
    · rcases h.back with rfl | rfl | rfl <;> simp_all
  rw [h.whole] at hc
  rcases h.front with rfl | ⟨d, -, rfl⟩
  · exact hbehind c (List.mem_of_mem_tail hc)
  · exact hbehind c hc

theorem long_not_figure : ∀ entry ∈ Case.longCapitals, ∃ n ∈ entry.2.tail,
    Char.ofNat n ∉ digitSymbols ++ (markerSymbols ++ ['+', '-']) := by
  decide +kernel

theorem exists_capital (h : IsNumber e.upper) {c : Char} (hc : c ∈ e) :
    ∃ d, Case.capital c = [d] := by
  obtain ⟨front, figures, back, hparts⟩ := h
  obtain ⟨before, after, rfl⟩ := List.append_of_mem hc
  have hupper : Text.upper (before ++ c :: after) =
      Text.upper before ++ (Case.capital c ++ Text.upper after) := by simp [Text.upper]
  rw [hupper] at hparts
  have hcapital := Case.isCapital c
  generalize Case.capital c = t at hparts hcapital ⊢
  cases hcapital with
  | @long codes _ hlisted =>
    obtain ⟨n, hn, hforeign⟩ := long_not_figure _ hlisted
    refine absurd (hparts.mem_tail ?_) hforeign
    cases codes with
    | nil => cases hn
    | cons first codes =>
      have hmem : Char.ofNat n ∈ codes.map Char.ofNat := List.mem_map_of_mem hn
      cases Text.upper before <;> simp [hmem]
  | ascii | run | unlisted => exact ⟨_, rfl⟩

def capitalOf (c : Char) : Char := (Case.capital c).headD c

theorem upper_eq_map (h : ∀ c ∈ e, ∃ d, Case.capital c = [d]) : e.upper = e.map capitalOf := by
  induction e with
  | nil => rfl
  | cons c e ih =>
    obtain ⟨⟨d, hd⟩, he⟩ := List.forall_mem_cons.mp h
    have hupper : Text.upper (c :: e) = Case.capital c ++ Text.upper e := rfl
    rw [hupper, ih he, List.map_cons, capitalOf, hd]
    rfl

theorem capital_eq (h : ∀ c ∈ e, ∃ d, Case.capital c = [d]) {c : Char} (hc : c ∈ e) :
    Case.capital c = [capitalOf c] := by
  obtain ⟨d, hd⟩ := h c hc
  rw [capitalOf, hd]
  rfl

theorem exists_writtenParts (h : isNumericPlus e = true) :
    ∃ front figures back, HasWrittenParts e front figures back := by
  have hupper : isNumericPlus e.upper = true := by
    rw [← h]
    unfold isNumericPlus
    rw [(Text.isUpper_upper e).upper_eq]
  have hnumber := (isNumericPlus_iff (Text.isUpper_upper e)).mp hupper
  have hsingle : ∀ c ∈ e, ∃ d, Case.capital c = [d] := fun c hc => exists_capital hnumber hc
  obtain ⟨front, figures, back, hwhole, hfront, hne, hfigures, hback⟩ := hnumber
  rw [upper_eq_map hsingle] at hwhole
  obtain ⟨first, rest, rfl, rfl, hrest⟩ := List.map_eq_append_iff.mp hwhole
  obtain ⟨middle, last, rfl, rfl, rfl⟩ := List.map_eq_append_iff.mp hrest
  have hcapital : ∀ c ∈ first ++ (middle ++ last), Case.capital c = [capitalOf c] :=
    fun c hc => capital_eq hsingle hc
  refine ⟨first, middle, last, rfl, ?_, by simpa using hne, ?_, ?_⟩
  · rcases hfront with hnil | ⟨c, hc, hone⟩
    · exact .inl (by simpa using hnil)
    · obtain ⟨d, rfl, rfl⟩ := List.map_eq_singleton_iff.mp hone
      exact .inr ⟨d, (capitalIn_iff _ _).mpr ⟨_, hc, hcapital d (by simp)⟩, rfl⟩
  · intro c hc
    have hfigure := hfigures (capitalOf c) (List.mem_map_of_mem hc)
    exact (capitalIn_iff _ _).mpr ⟨_, List.mem_append.mpr hfigure, hcapital c (by simp [hc])⟩
  · have hsign : ∀ sign ∈ ['+', '-', '.'], last.map capitalOf = [sign] → last = [sign] := by
      intro sign hsign hone
      obtain ⟨d, rfl, hd⟩ := List.map_eq_singleton_iff.mp hone
      have hcap : Case.capital d = [sign] := hd ▸ hcapital d (by simp)
      rw [eq_of_capital hsign hcap]
    rcases hback with hnil | hplus | hminus
    · exact .inl (by simpa using hnil)
    · exact .inr (.inl (hsign '+' (by decide) hplus))
    · exact .inr (.inr (hsign '-' (by decide) hminus))

/-! ### Counting -/

theorem not_isSign_of_written {c : Char}
    (h : capitalIn (digitSymbols ++ markerSymbols) c = true) : isSign c = false := by
  have hself : ∀ d ∈ signSymbols, capitalIn signSymbols d = true := by decide
  have hapart : capitalIn signSymbols c = false := capitalIn_apart (by decide) h
  rw [Bool.eq_false_iff]
  intro hsign
  rw [hself c ((isSign_iff c).mp hsign)] at hapart
  cases hapart

namespace HasWrittenParts

variable (h : HasWrittenParts e front figures back)
include h

theorem removeSign_eq : removeSign e = figures ++ if front = [] then [] else back := by
  obtain ⟨rfl, hfront, hne, hfigures, hback⟩ := h
  rcases hfront with rfl | ⟨c, hc, rfl⟩
  · have hhead : ∀ c ∈ ([] ++ (figures ++ back)).head?, capitalIn signSymbols c = false := by
      intro c hc
      rw [List.nil_append, List.head?_append_of_ne_nil figures hne] at hc
      exact capitalIn_apart (by decide) (hfigures c (List.mem_of_head? hc))
    rw [removeSign_of_head hhead, if_pos rfl, List.nil_append, List.append_nil]
    rcases hback with rfl | rfl | rfl
    · have hlast : figures.getLast?.any isSign = false := by
        cases hl : figures.getLast? with
        | none => rfl
        | some last => exact not_isSign_of_written (hfigures last (List.mem_of_getLast? hl))
      simp [hlast]
    · simp [isSign]
    · simp [isSign]
  · rw [List.singleton_append, removeSign_cons hc, if_neg (List.cons_ne_nil c [])]

theorem mem_ends {c : Char} (hc : c ∈ front ++ back) : capitalIn signSymbols c = true := by
  rcases List.mem_append.mp hc with hc | hc
  · rcases h.front with rfl | ⟨d, hd, rfl⟩
    · cases hc
    · rwa [List.mem_singleton.mp hc]
  · have hsigns : capitalIn signSymbols '+' = true ∧ capitalIn signSymbols '-' = true := by decide
    rcases h.back with rfl | rfl | rfl
    · cases hc
    · rw [List.mem_singleton.mp hc]
      exact hsigns.1
    · rw [List.mem_singleton.mp hc]
      exact hsigns.2

theorem countP_eq {p : Char → Bool} (hp : ∀ c, capitalIn signSymbols c = true → p c = false) :
    e.countP p = figures.countP p := by
  have hfront : front.countP p = 0 := List.countP_eq_zero.mpr fun c hc =>
    Bool.not_eq_true _ ▸ hp c (h.mem_ends (List.mem_append_left _ hc))
  have hback : back.countP p = 0 := List.countP_eq_zero.mpr fun c hc =>
    Bool.not_eq_true _ ▸ hp c (h.mem_ends (List.mem_append_right _ hc))
  rw [h.whole, List.countP_append, List.countP_append, hfront, hback, Nat.zero_add, Nat.add_zero]

theorem digitPositions_eq : digitPositions e = digitPositions figures := by
  refine h.countP_eq fun c hc => ?_
  rw [decide_eq_false_iff_not, ← capitalIn_digits, capitalIn_apart (by decide) hc]
  exact Bool.false_ne_true

theorem markerCount_eq : markerCount e = markerCount figures :=
  h.countP_eq fun _ hc => capitalIn_apart (by decide) hc

theorem signCount_eq : signCount e = front.length + back.length := by
  have hfigures : figures.countP (capitalIn signSymbols) = 0 := List.countP_eq_zero.mpr fun c hc =>
    Bool.not_eq_true _ ▸ capitalIn_apart (by decide) (h.figures c hc)
  have hfront : front.countP (capitalIn signSymbols) = front.length :=
    List.countP_eq_length.mpr fun c hc => h.mem_ends (List.mem_append_left _ hc)
  have hback : back.countP (capitalIn signSymbols) = back.length :=
    List.countP_eq_length.mpr fun c hc => h.mem_ends (List.mem_append_right _ hc)
  rw [signCount, h.whole, List.countP_append, List.countP_append, hfigures, hfront, hback,
    Nat.zero_add]

theorem length_figures : figures.length = digitPositions figures + markerCount figures := by
  have hdigit : ∀ c ∈ figures, ¬ c ∈ digitLetters ↔ capitalIn markerSymbols c = true := by
    intro c hc
    rw [← capitalIn_digits]
    constructor
    · intro hnot
      obtain ⟨d, hd, hcapital⟩ := (capitalIn_iff _ _).mp (h.figures c hc)
      refine (capitalIn_iff _ _).mpr ⟨d, ?_, hcapital⟩
      exact (List.mem_append.mp hd).resolve_left fun hdigit =>
        hnot ((capitalIn_iff _ _).mpr ⟨d, hdigit, hcapital⟩)
    · intro hmarker
      rw [capitalIn_apart (by decide) hmarker]
      exact Bool.false_ne_true
  have hmarkers : markerCount figures = figures.countP fun c => ¬ decide (c ∈ digitLetters) = true := by
    refine List.countP_congr fun c hc => ?_
    simp [hdigit c hc]
  rw [hmarkers, digitPositions]
  exact List.length_eq_countP_add_countP _

theorem length_removeSign :
    (removeSign e).length = digitPositions e + markerCount e + (signCount e - 1) := by
  have hlength := h.length_figures
  rw [h.removeSign_eq, h.digitPositions_eq, h.markerCount_eq, h.signCount_eq, List.length_append,
    ← hlength]
  have hback : back.length ≤ 1 := by
    rcases h.back with rfl | rfl | rfl <;> decide
  rcases h.front with rfl | ⟨c, -, rfl⟩
  · simp only [if_true, List.length_nil]
    omega
  · simp

theorem single_capital {c : Char} (hc : c ∈ e) : ∃ d, Case.capital c = [d] := by
  have hsingle : ∀ {symbols : List Char}, capitalIn symbols c = true → ∃ d, Case.capital c = [d] :=
    fun hin => ((capitalIn_iff _ _).mp hin).imp fun _ hd => hd.2
  rw [h.whole, List.mem_append, List.mem_append] at hc
  rcases hc with hc | hc | hc
  · exact hsingle (h.mem_ends (List.mem_append_left _ hc))
  · exact hsingle (h.figures c hc)
  · exact hsingle (h.mem_ends (List.mem_append_right _ hc))

theorem removeSign_parts : ∃ back', HasWrittenParts (removeSign e) [] figures back' := by
  rw [h.removeSign_eq]
  by_cases hfront : front = []
  · rw [if_pos hfront]
    exact ⟨[], rfl, .inl rfl, h.nonempty, h.figures, .inl rfl⟩
  · rw [if_neg hfront]
    exact ⟨back, rfl, .inl rfl, h.nonempty, h.figures, h.back⟩

theorem markerPosition_spec :
    markerPosition e + (e.length - markerPosition e - 1) + min 1 (markerCount e) = e.length := by
  have hupper : e.upper = e.map capitalOf := upper_eq_map fun c hc => h.single_capital hc
  have hv : 'V' ∈ e.upper ↔ ∃ c ∈ e, Case.capital c = ['V'] := by
    rw [hupper, List.mem_map]
    refine exists_congr fun c => and_congr_right fun hc => ?_
    rw [capital_eq (fun c hc => h.single_capital hc) hc, List.singleton_inj]
  have hfound {n : Nat} (hmarker : ∃ c ∈ e, capitalIn markerSymbols c = true) (hn : n < e.length) :
      n + (e.length - n - 1) + min 1 (markerCount e) = e.length := by
    have hpos : 0 < markerCount e := List.countP_pos_iff.mpr hmarker
    omega
  unfold markerPosition
  cases hpoint : e.idxOf? '.' with
  | some position =>
    obtain ⟨hlt, hget, -⟩ := List.findIdx?_eq_some_iff_getElem.mp hpoint
    have hself : capitalIn markerSymbols '.' = true := by decide
    exact hfound ⟨e[position], List.getElem_mem hlt, by rw [beq_iff_eq.mp hget, hself]⟩ hlt
  | none =>
    cases hletter : e.upper.idxOf? 'V' with
    | some position =>
      obtain ⟨hlt, hget, -⟩ := List.findIdx?_eq_some_iff_getElem.mp hletter
      obtain ⟨c, hc, hcapital⟩ := hv.mp (beq_iff_eq.mp hget ▸ List.getElem_mem hlt)
      rw [hupper, List.length_map] at hlt
      exact hfound ⟨c, hc, (capitalIn_iff _ _).mpr ⟨'V', by decide, hcapital⟩⟩ hlt
    | none =>
      have hnone : markerCount e = 0 := by
        refine List.countP_eq_zero.mpr fun c hc hmarker => ?_
        obtain ⟨d, hd, hcapital⟩ := (capitalIn_iff _ _).mp hmarker
        simp only [markerSymbols, List.mem_cons, List.not_mem_nil, or_false] at hd
        rcases hd with rfl | rfl
        · rw [eq_of_capital (by decide) hcapital] at hc
          exact List.idxOf?_eq_none_iff.mp hpoint hc
        · exact List.idxOf?_eq_none_iff.mp hletter (hv.mpr ⟨c, hc, hcapital⟩)
      simp only [Option.getD_none]
      omega

end HasWrittenParts

/-- A numeric picture has positions before and after its decimal marker, which are its digits, and
besides each sign and each marker that is not the first. They are its digits exactly as long as there
is at most one of either. The size of an item is the number of the positions. -/
theorem positions_eq_digits_iff (h : isNumericPlus e = true) :
    ∃ whole fraction, integerDigits? e = some whole ∧ fractionDigits? e = some fraction ∧
      whole + fraction = digitPositions e + (signCount e - 1) + (markerCount e - 1) ∧
      (whole + fraction = digitPositions e ↔ signCount e ≤ 1 ∧ markerCount e ≤ 1) ∧
      ∀ usage declared, (Extent.classify e usage declared).size = whole + fraction := by
  obtain ⟨front, figures, back, hparts⟩ := exists_writtenParts h
  obtain ⟨back', hunsigned⟩ := hparts.removeSign_parts
  have hlength := hparts.length_removeSign
  have hposition := hunsigned.markerPosition_spec
  have hmarkers : markerCount (removeSign e) = markerCount e := by
    rw [hunsigned.markerCount_eq, hparts.markerCount_eq]
  rw [hmarkers, hlength] at hposition
  have hsum : markerPosition (removeSign e) +
      ((removeSign e).length - markerPosition (removeSign e) - 1) =
        digitPositions e + (signCount e - 1) + (markerCount e - 1) := by
    rw [hlength]
    omega
  refine ⟨_, _, if_pos h, if_pos h, hsum, ?_, fun usage declared => ?_⟩
  · rw [hsum]
    omega
  · obtain ⟨_, -, -, -, -, -, hsize⟩ := Extent.numeric_spec (e.upper.any isSign)
      (markerPosition (removeSign e))
      ((removeSign e).length - markerPosition (removeSign e) - 1)
    rw [← hsize]
    simp [Extent.classify, isSigned?, integerDigits?, fractionDigits?, h]

/-- A sign stands at both ends, and only the first is left out. -/
theorem positions_eq_digits_iff_signs :
    isNumericPlus "S9+" = true ∧ digitPositions "S9+" = 1 ∧ signCount "S9+" = 2 ∧
      ∃ whole fraction, integerDigits? "S9+" = some whole ∧ fractionDigits? "S9+" = some fraction ∧
        whole + fraction = 2 ∧ whole + fraction ≠ digitPositions "S9+" := by
  have hnumeric : isNumericPlus "S9+" = true := by decide +kernel
  have hcounts : digitPositions "S9+" = 1 ∧ signCount "S9+" = 2 ∧ markerCount "S9+" = 0 := by
    decide +kernel
  obtain ⟨hdigits, hsigns, hmarkers⟩ := hcounts
  obtain ⟨whole, fraction, hwhole, hfraction, hsum, hiff, -⟩ := positions_eq_digits_iff hnumeric
  rw [hdigits, hsigns, hmarkers] at hsum
  refine ⟨hnumeric, hdigits, hsigns, whole, fraction, hwhole, hfraction, hsum, fun heq => ?_⟩
  have hone := (hiff.mp heq).1
  rw [hsigns] at hone
  omega

end Picture
end Copybook
