import Copybook.Picture.Family
import Copybook.Proofs.Capitals
import Copybook.Proofs.Text
import Mathlib.Data.List.Basic

/-!
The families of pictures by their symbols. Numbers have figures between optional signs, and how far
their digits reach on both sides of the decimal marker is a matter of counting symbols; alphabetic
and alphanumeric pictures are told apart by the symbols that they hold. No picture belongs to two
families. -/
namespace Copybook
namespace Picture

def signSymbols : List Char := ['S', '+', '-']

def digitSymbols : List Char := ['0', 'Z', '9']

def markerSymbols : List Char := ['.', 'V']

def insertionSymbols : List Char := ['B', '0', '/']

/-- A numeric picture in its parts: an optional sign, figures, and an optional plus or minus. -/
structure HasParts (e front figures back : Text) : Prop where
  whole : e = front ++ (figures ++ back)
  front : front = [] ∨ ∃ c ∈ signSymbols, front = [c]
  nonempty : figures ≠ []
  figures : ∀ c ∈ figures, c ∈ digitSymbols ∨ c ∈ markerSymbols
  back : back = [] ∨ back = ['+'] ∨ back = ['-']

def IsNumber (e : Text) : Prop := ∃ front figures back, HasParts e front figures back

def IsAlphabet (e : Text) : Prop := e ≠ [] ∧ ∀ c ∈ e, c = 'A'

/-- Letters, nines and insertion symbols; what has no X needs an insertion symbol beside its A. -/
def IsMixed (e : Text) : Prop :=
  (∀ c ∈ e, c ∈ ['A', 'X', '9', 'B', '0', '/']) ∧
    ('X' ∈ e ∨ 'A' ∈ e ∧ ∃ c ∈ e, c ∈ insertionSymbols)

def digitCount (e : Text) : Nat := e.countP fun c => c ∈ digitSymbols

def fromMarker (e : Text) : Text := e.dropWhile fun c => c ∉ markerSymbols

theorem isSign_iff (c : Char) : isSign c = true ↔ c ∈ signSymbols := by
  simp [isSign, signSymbols, or_assoc]

theorem isFigure_iff (c : Char) : isFigure c = true ↔ c ∈ digitSymbols ∨ c ∈ markerSymbols := by
  simp [isFigure, digitSymbols, markerSymbols, or_assoc]

theorem isLetter_iff (c : Char) : isLetter c = true ↔ c = 'A' ∨ c = 'X' := by simp [isLetter]

theorem capitalIn_eq {c : Char} (h : Case.capital c = [c]) (symbols : List Char) :
    capitalIn symbols c = symbols.contains c := by
  rw [capitalIn, h]

/-! ### Numbers -/

theorem endsInFigures_iff (t : Text) : endsInFigures t = true ↔ ∃ figures back,
    t = figures ++ back ∧ (∀ c ∈ figures, c ∈ digitSymbols ∨ c ∈ markerSymbols) ∧
      (back = [] ∨ back = ['+'] ∨ back = ['-']) := by
  induction t with
  | nil => simp [endsInFigures]
  | cons c r ih =>
    rw [endsInFigures]
    constructor
    · intro h
      split at h
      · rename_i hc
        obtain ⟨figures, back, rfl, hfigures, hback⟩ := ih.mp h
        have hfirst := (isFigure_iff c).mp hc
        exact ⟨c :: figures, back, rfl, List.forall_mem_cons.mpr ⟨hfirst, hfigures⟩, hback⟩
      · simp only [Bool.and_eq_true, Bool.or_eq_true, decide_eq_true_eq, List.isEmpty_iff] at h
        obtain ⟨hc, rfl⟩ := h
        exact ⟨[], [c], rfl, by simp, by simpa using hc⟩
    · rintro ⟨figures, back, hsplit, hfigures, hback⟩
      cases figures with
      | nil => rcases hback with rfl | rfl | rfl <;> simp_all [isFigure]
      | cons d figures =>
        obtain ⟨rfl, rfl⟩ : c = d ∧ r = figures ++ back := by simpa using hsplit
        obtain ⟨hfirst, hfigures⟩ := List.forall_mem_cons.mp hfigures
        rw [if_pos ((isFigure_iff c).mpr hfirst)]
        exact ih.mpr ⟨figures, back, rfl, hfigures, hback⟩

theorem unsigned_iff (t : Text) : (beginsWithFigure t && endsInFigures t) = true ↔
    ∃ figures back, HasParts t [] figures back := by
  rw [Bool.and_eq_true, endsInFigures_iff]
  constructor
  · rintro ⟨hbegin, figures, back, rfl, hfigures, hback⟩
    have hne : figures ≠ [] := by
      rintro rfl
      rcases hback with rfl | rfl | rfl <;> simp [beginsWithFigure, isFigure] at hbegin
    exact ⟨figures, back, rfl, .inl rfl, hne, hfigures, hback⟩
  · rintro ⟨figures, back, rfl, -, hne, hfigures, hback⟩
    refine ⟨?_, figures, back, rfl, hfigures, hback⟩
    cases figures with
    | nil => exact absurd rfl hne
    | cons c figures => exact (isFigure_iff c).mpr (hfigures c List.mem_cons_self)

theorem not_isSign_of_isFigure {c : Char} (h : c ∈ digitSymbols ∨ c ∈ markerSymbols) :
    isSign c = false := by
  have hall : ∀ c ∈ digitSymbols ++ markerSymbols, isSign c = false := by decide
  exact hall c (List.mem_append.mpr h)

theorem dropLeadingSign_figures {figures : Text} (hne : figures ≠ [])
    (h : ∀ c ∈ figures, c ∈ digitSymbols ∨ c ∈ markerSymbols) (rest : Text) :
    dropLeadingSign (figures ++ rest) = figures ++ rest := by
  cases figures with
  | nil => exact absurd rfl hne
  | cons c figures =>
    simp [dropLeadingSign, not_isSign_of_isFigure (h c List.mem_cons_self)]

theorem isNumericPlus_iff {e : Text} (he : e.IsUpper) : isNumericPlus e = true ↔ IsNumber e := by
  unfold isNumericPlus
  rw [he.upper_eq, unsigned_iff]
  constructor
  · rintro ⟨figures, back, hparts⟩
    cases e with
    | nil => exact ⟨[], figures, back, hparts⟩
    | cons c r =>
      by_cases hc : isSign c = true
      · rw [dropLeadingSign, if_pos hc] at hparts
        have hwhole : c :: r = [c] ++ (figures ++ back) := congrArg (c :: ·) hparts.whole
        exact ⟨[c], figures, back, hwhole, .inr ⟨c, (isSign_iff c).mp hc, rfl⟩, hparts.nonempty,
          hparts.figures, hparts.back⟩
      · rw [dropLeadingSign, if_neg hc] at hparts
        exact ⟨[], figures, back, hparts⟩
  · rintro ⟨front, figures, back, rfl, hfront, hne, hfigures, hback⟩
    refine ⟨figures, back, ?_, .inl rfl, hne, hfigures, hback⟩
    rcases hfront with rfl | ⟨c, hc, rfl⟩
    · exact dropLeadingSign_figures hne hfigures back
    · simp [dropLeadingSign, (isSign_iff c).mpr hc]

section

variable {e front figures back : Text}

theorem HasParts.mem (h : HasParts e front figures back) {c : Char} (hc : c ∈ e) :
    c ∈ signSymbols ∨ c ∈ digitSymbols ∨ c ∈ markerSymbols := by
  have hback : ∀ c ∈ back, c ∈ signSymbols := by
    rcases h.back with rfl | rfl | rfl <;> simp [signSymbols]
  rw [h.whole, List.mem_append, List.mem_append] at hc
  rcases hc with hc | hc | hc
  · rcases h.front with rfl | ⟨d, hd, rfl⟩
    · simp at hc
    · exact .inl (List.mem_singleton.mp hc ▸ hd)
  · exact .inr (h.figures c hc)
  · exact .inl (hback c hc)

theorem removeSign_cons {c : Char} (h : capitalIn signSymbols c = true) (r : Text) :
    removeSign (c :: r) = r := by
  rw [removeSign]
  exact if_pos h

theorem removeSign_of_head {t : Text} (h : ∀ c ∈ t.head?, capitalIn signSymbols c = false) :
    removeSign t = if t.getLast?.any isSign then t.dropLast else t := by
  cases t with
  | nil => rfl
  | cons c r =>
    have hc : capitalIn ['S', '+', '-'] c = false := h c rfl
    rw [removeSign, hc, if_neg Bool.false_ne_true]
    cases (c :: r).getLast? <;> rfl

theorem HasParts.removeSign_eq (h : HasParts e front figures back) (he : e.IsUpper)
    (hsigns : e.countP (fun c => c ∈ signSymbols) ≤ 1) : removeSign e = figures := by
  obtain ⟨rfl, hfront, hne, hfigures, hback⟩ := h
  rcases hfront with rfl | ⟨c, hc, rfl⟩
  · have hhead : ∀ c ∈ ([] ++ (figures ++ back)).head?, capitalIn signSymbols c = false := by
      intro c hc
      rw [List.nil_append, List.head?_append_of_ne_nil figures hne] at hc
      have hmem : c ∈ figures := List.mem_of_head? hc
      have hsign := not_isSign_of_isFigure (hfigures c hmem)
      rw [capitalIn_eq (he c (by simp [hmem])), List.contains_eq_mem, decide_eq_false_iff_not,
        ← isSign_iff, hsign]
      exact Bool.false_ne_true
    rw [removeSign_of_head hhead, List.nil_append]
    rcases hback with rfl | rfl | rfl
    · have hlast : figures.getLast?.any isSign = false := by
        cases hl : figures.getLast? with
        | none => rfl
        | some last => exact not_isSign_of_isFigure (hfigures last (List.mem_of_getLast? hl))
      simp [hlast]
    · simp [isSign]
    · simp [isSign]
  · have hkept : capitalIn signSymbols c = true := by
      rw [capitalIn_eq (he c (by simp))]
      simpa using hc
    have hnone : back = [] := by
      rcases hback with hnil | rfl | rfl
      · exact hnil
      all_goals
        have hplus : '+' ∈ signSymbols ∧ '-' ∈ signSymbols := by decide
        simp [hc, hplus] at hsigns
    rw [List.singleton_append, removeSign_cons hkept, hnone, List.append_nil]

end

/-- The figures of a number with one decimal marker at most: digits only, or digits on both sides
of the marker. -/
theorem figures_split {figures : Text} (h : ∀ c ∈ figures, c ∈ digitSymbols ∨ c ∈ markerSymbols)
    (hmarkers : figures.countP (fun c => c ∈ markerSymbols) ≤ 1) :
    (∀ c ∈ figures, c ∈ digitSymbols) ∨ ∃ whole marker fraction,
      figures = whole ++ marker :: fraction ∧ marker ∈ markerSymbols ∧
        (∀ c ∈ whole, c ∈ digitSymbols) ∧ ∀ c ∈ fraction, c ∈ digitSymbols := by
  by_cases hany : ∃ marker ∈ figures, marker ∈ markerSymbols
  · obtain ⟨marker, hmem, hmarker⟩ := hany
    obtain ⟨whole, fraction, rfl⟩ := List.append_of_mem hmem
    have hcount : whole.countP (fun c => c ∈ markerSymbols) = 0 ∧
        fraction.countP (fun c => c ∈ markerSymbols) = 0 := by
      simp only [List.countP_append, List.countP_cons, hmarker, decide_true, if_true] at hmarkers
      omega
    simp only [List.countP_eq_zero, decide_eq_true_eq] at hcount
    refine .inr ⟨whole, marker, fraction, rfl, hmarker, ?_, ?_⟩
    · intro c hc
      exact (h c (by simp [hc])).resolve_right (hcount.1 c hc)
    · intro c hc
      exact (h c (by simp [hc])).resolve_right (hcount.2 c hc)
  · left
    intro c hc
    exact (h c hc).resolve_right fun hmarker => hany ⟨c, hc, hmarker⟩

theorem not_mem_of_digits {digits : Text} (h : ∀ c ∈ digits, c ∈ digitSymbols) {marker : Char}
    (hmarker : marker ∈ markerSymbols) : marker ∉ digits := by
  have hall : ∀ c ∈ markerSymbols, c ∉ digitSymbols := by decide
  intro hmem
  exact hall marker hmarker (h marker hmem)

theorem markerPosition_digits {digits : Text} (hupper : digits.IsUpper)
    (h : ∀ c ∈ digits, c ∈ digitSymbols) : markerPosition digits = digits.length := by
  have hpoint : digits.idxOf? '.' = none :=
    List.idxOf?_eq_none_iff.mpr (not_mem_of_digits h (by decide))
  have hv : digits.idxOf? 'V' = none :=
    List.idxOf?_eq_none_iff.mpr (not_mem_of_digits h (by decide))
  rw [markerPosition, hpoint, hupper.upper_eq, hv]
  rfl

theorem markerPosition_split {whole fraction : Text} {marker : Char}
    (hupper : (whole ++ marker :: fraction).IsUpper) (hmarker : marker ∈ markerSymbols)
    (hwhole : ∀ c ∈ whole, c ∈ digitSymbols) (hfraction : ∀ c ∈ fraction, c ∈ digitSymbols) :
    markerPosition (whole ++ marker :: fraction) = whole.length := by
  have hfound : (whole ++ marker :: fraction).idxOf? marker = some whole.length := by
    have hnone : whole.findIdx? (· == marker) = none :=
      List.idxOf?_eq_none_iff.mpr (not_mem_of_digits hwhole hmarker)
    rw [List.idxOf?, List.findIdx?_append, hnone, List.findIdx?_cons]
    simp
  rw [markerPosition, hupper.upper_eq]
  have hcases : marker = '.' ∨ marker = 'V' := by simpa [markerSymbols] using hmarker
  rcases hcases with rfl | rfl
  · rw [hfound]
  · have hpoint : (whole ++ 'V' :: fraction).idxOf? '.' = none := by
      have hw : '.' ∉ whole := not_mem_of_digits hwhole (by decide)
      have hf : '.' ∉ fraction := not_mem_of_digits hfraction (by decide)
      rw [List.idxOf?_eq_none_iff]
      simp [hw, hf]
    rw [hpoint, hfound]
    rfl

theorem digitCount_append (s t : Text) : digitCount (s ++ t) = digitCount s + digitCount t :=
  List.countP_append

theorem digitCount_digits {digits : Text} (h : ∀ c ∈ digits, c ∈ digitSymbols) :
    digitCount digits = digits.length := by
  rw [digitCount, List.countP_eq_length]
  simpa using h

theorem digitCount_eq_zero {t : Text} (h : ∀ c ∈ t, c ∉ digitSymbols) : digitCount t = 0 := by
  rw [digitCount, List.countP_eq_zero]
  simpa using h

theorem fromMarker_of_none {t : Text} (h : ∀ c ∈ t, c ∉ markerSymbols) : fromMarker t = [] := by
  have hd : (t ++ []).dropWhile (fun c => c ∉ markerSymbols) = [].dropWhile _ :=
    List.dropWhile_append_of_pos (by simpa using h)
  simpa [fromMarker] using hd

theorem fromMarker_split {before after : Text} {marker : Char}
    (h : ∀ c ∈ before, c ∉ markerSymbols) (hmarker : marker ∈ markerSymbols) :
    fromMarker (before ++ marker :: after) = marker :: after := by
  have hd : (before ++ marker :: after).dropWhile (fun c => c ∉ markerSymbols) =
      (marker :: after).dropWhile _ := List.dropWhile_append_of_pos (by simpa using h)
  rw [fromMarker, hd]
  simp [hmarker]

theorem HasParts.not_figure {e front figures back : Text} (h : HasParts e front figures back) :
    ∀ c ∈ front ++ back, c ∉ digitSymbols ∧ c ∉ markerSymbols := by
  have hall : ∀ c ∈ signSymbols, c ∉ digitSymbols ∧ c ∉ markerSymbols := by decide
  have hfront : ∀ c ∈ front, c ∈ signSymbols := by
    rcases h.front with rfl | ⟨d, hd, rfl⟩ <;> simp_all
  have hback : ∀ c ∈ back, c ∈ signSymbols := by
    rcases h.back with rfl | rfl | rfl <;> simp [signSymbols]
  intro c hc
  exact hall c ((List.mem_append.mp hc).elim (hfront c) (hback c))

theorem not_marker_of_digits {front digits back : Text}
    (hsign : ∀ c ∈ front ++ back, c ∉ digitSymbols ∧ c ∉ markerSymbols)
    (hdigits : ∀ c ∈ digits, c ∈ digitSymbols) :
    ∀ c ∈ front ++ (digits ++ back), c ∉ markerSymbols := by
  intro c hc hmarker
  rcases List.mem_append.mp hc with hc | hc
  · exact (hsign c (List.mem_append_left _ hc)).2 hmarker
  · rcases List.mem_append.mp hc with hc | hc
    · exact not_mem_of_digits hdigits hmarker hc
    · exact (hsign c (List.mem_append_right _ hc)).2 hmarker

theorem digitCount_marker {marker : Char} (hmarker : marker ∈ markerSymbols) (t : Text) :
    digitCount (marker :: t) = digitCount t := by
  have hall : ∀ c ∈ markerSymbols, digitCount [c] = 0 := by decide
  have happend := digitCount_append [marker] t
  rwa [hall marker hmarker, Nat.zero_add] at happend

theorem HasParts.positions {e front figures back : Text} (h : HasParts e front figures back)
    (he : e.IsUpper) (hsigns : e.countP (fun c => c ∈ signSymbols) ≤ 1)
    (hmarkers : e.countP (fun c => c ∈ markerSymbols) ≤ 1) :
    markerPosition (removeSign e) +
        ((removeSign e).length - markerPosition (removeSign e) - 1) = digitCount e ∧
      (removeSign e).length - markerPosition (removeSign e) - 1 = digitCount (fromMarker e) := by
  have hfigures := h.removeSign_eq he hsigns
  have hsign := h.not_figure
  obtain ⟨rfl, -, -, hsymbols, -⟩ := h
  have hfrontCount : digitCount front = 0 :=
    digitCount_eq_zero fun c hc => (hsign c (List.mem_append_left _ hc)).1
  have hbackCount : digitCount back = 0 :=
    digitCount_eq_zero fun c hc => (hsign c (List.mem_append_right _ hc)).1
  have hupper : figures.IsUpper := fun c hc => he c (by simp [hc])
  have hone : figures.countP (fun c => c ∈ markerSymbols) ≤ 1 := by
    simp only [List.countP_append] at hmarkers
    omega
  rw [hfigures, digitCount_append, digitCount_append, hfrontCount, hbackCount]
  rcases figures_split hsymbols hone with hdigits | ⟨whole, marker, fraction, rfl, hmarker, hw, hf⟩
  · have hnone := not_marker_of_digits hsign hdigits
    rw [markerPosition_digits hupper hdigits, fromMarker_of_none hnone, digitCount_digits hdigits]
    have hnil : digitCount [] = 0 := rfl
    omega
  · have hbefore : ∀ c ∈ front ++ whole, c ∉ markerSymbols := by
      intro c hc
      have hwhole : c ∈ front ++ (whole ++ back) := by
        rw [← List.append_assoc]
        exact List.mem_append_left _ hc
      exact not_marker_of_digits hsign hw c hwhole
    have hfrom : fromMarker (front ++ (whole ++ marker :: fraction ++ back)) =
        marker :: (fraction ++ back) := by
      have hsplit : fromMarker ((front ++ whole) ++ marker :: (fraction ++ back)) = _ :=
        fromMarker_split hbefore hmarker
      simpa using hsplit
    rw [markerPosition_split hupper hmarker hw hf, hfrom, digitCount_marker hmarker,
      digitCount_append, digitCount_append, digitCount_marker hmarker, digitCount_digits hw,
      digitCount_digits hf, hbackCount, List.length_append, List.length_cons]
    omega

/-! ### Letters -/

theorem isAlphabetic_iff {e : Text} (he : e.IsUpper) : isAlphabetic e = true ↔ IsAlphabet e := by
  simp [isAlphabetic, IsAlphabet, he.upper_eq]

theorem meets_some_iff (last : Bool) (t : Text) :
    meets (some last) t = true ↔ ∃ c ∈ t, c ≠ '9' ∧ isLetter c = !last := by
  induction t with
  | nil => simp [meets]
  | cons c r ih =>
    by_cases hnine : c = '9'
    · simp [meets, hnine, ih]
    · by_cases hkind : isLetter c = last
      · simp [meets, hnine, hkind, ih]
      · have hother : isLetter c = !last := Bool.eq_not.mpr hkind
        simp [meets, hnine, hother]

theorem meets_none_iff (t : Text) : meets none t = true ↔
    (∃ c ∈ t, c ≠ '9' ∧ isLetter c = true) ∧ ∃ c ∈ t, c ≠ '9' ∧ isLetter c = false := by
  induction t with
  | nil => simp [meets]
  | cons c r ih =>
    by_cases hnine : c = '9'
    · simp [meets, hnine, ih]
    · cases hkind : isLetter c <;> simp [meets, hnine, hkind, meets_some_iff]

theorem isAlphanumeric_iff {e : Text} (he : e.IsUpper) :
    isAlphanumeric e = true ↔ (∀ c ∈ e, c = 'A' ∨ c = 'X' ∨ c = '9') ∧ 'X' ∈ e := by
  simp [isAlphanumeric, he.upper_eq, isLetter, or_assoc]

theorem isAlphanumericEdited_iff {e : Text} (he : e.IsUpper) : isAlphanumericEdited e = true ↔
    (∀ c ∈ e, c ∈ ['A', 'X', '9', 'B', '0', '/']) ∧ ('A' ∈ e ∨ 'X' ∈ e) ∧
      ∃ c ∈ e, c ∈ insertionSymbols := by
  have hsymbol : ∀ c, (isLetter c || c = '9' || isInsertion c) = true ↔
      c ∈ ['A', 'X', '9', 'B', '0', '/'] := by
    intro c
    simp [isLetter, isInsertion, or_assoc]
  have hinsertion : ∀ c ∈ ['A', 'X', '9', 'B', '0', '/'],
      (c ≠ '9' ∧ isLetter c = false) ↔ c ∈ insertionSymbols := by decide
  simp only [isAlphanumericEdited, he.upper_eq, Bool.and_eq_true, List.all_eq_true, hsymbol,
    meets_none_iff]
  constructor
  · rintro ⟨hall, ⟨c, hc, -, hletter⟩, d, hd, hother⟩
    refine ⟨hall, ?_, d, hd, (hinsertion d (hall d hd)).mp hother⟩
    rcases (isLetter_iff c).mp hletter with rfl | rfl
    · exact .inl hc
    · exact .inr hc
  · rintro ⟨hall, hletter, d, hd, hother⟩
    refine ⟨hall, ?_, d, hd, (hinsertion d (hall d hd)).mpr hother⟩
    rcases hletter with hc | hc
    · exact ⟨'A', hc, by decide⟩
    · exact ⟨'X', hc, by decide⟩

theorem isAlphanumericPlus_iff {e : Text} (he : e.IsUpper) :
    isAlphanumericPlus e = true ↔ IsMixed e := by
  rw [isAlphanumericPlus, Bool.or_eq_true, isAlphanumeric_iff he, isAlphanumericEdited_iff he]
  constructor
  · rintro (⟨hall, hx⟩ | ⟨hall, hletter, hinsertion⟩)
    · refine ⟨?_, .inl hx⟩
      intro c hc
      rcases hall c hc with rfl | rfl | rfl <;> decide
    · exact ⟨hall, hletter.symm.imp id fun ha => ⟨ha, hinsertion⟩⟩
  · rintro ⟨hall, hkind⟩
    by_cases hinsertion : ∃ c ∈ e, c ∈ insertionSymbols
    · exact .inr ⟨hall, hkind.symm.imp And.left id, hinsertion⟩
    · left
      have hx : 'X' ∈ e := hkind.resolve_right fun h => hinsertion h.2
      refine ⟨?_, hx⟩
      intro c hc
      have hnot : c ∉ insertionSymbols := fun h => hinsertion ⟨c, hc, h⟩
      have hplain : ∀ c ∈ ['A', 'X', '9', 'B', '0', '/'], c ∉ insertionSymbols →
          c = 'A' ∨ c = 'X' ∨ c = '9' := by decide
      exact hplain c (hall c hc) hnot

theorem characterCount_mixed {e : Text} (he : e.IsUpper) (h : IsMixed e) :
    characterCount e = e.countP fun c => c ∈ ['A', 'X', '9'] := by
  have hplain : ∀ c ∈ ['A', 'X', '9', 'B', '0', '/'],
      (! ['B', '0', '/'].contains c) = decide (c ∈ ['A', 'X', '9']) := by decide
  rw [characterCount, List.countP_eq_length_filter]
  congr 1
  apply List.filter_congr
  intro c hc
  rw [capitalIn_eq (he c hc), hplain c (h.1 c hc)]

/-! ### No picture belongs to two families -/

theorem IsNumber.not_letter {e : Text} (h : IsNumber e) {c : Char} (hc : c ∈ e) :
    c ≠ 'A' ∧ c ≠ 'X' := by
  obtain ⟨front, figures, back, hparts⟩ := h
  have hall : ∀ c ∈ signSymbols ++ (digitSymbols ++ markerSymbols), c ≠ 'A' ∧ c ≠ 'X' := by decide
  have hmem := hparts.mem hc
  exact hall c (by simpa using hmem)

theorem IsNumber.not_isAlphabet {e : Text} (h : IsNumber e) : ¬ IsAlphabet e := by
  rintro ⟨hne, hall⟩
  obtain ⟨c, r, rfl⟩ := List.exists_cons_of_ne_nil hne
  exact (h.not_letter List.mem_cons_self).1 (hall c List.mem_cons_self)

theorem IsNumber.not_isMixed {e : Text} (h : IsNumber e) : ¬ IsMixed e := by
  rintro ⟨-, hx | ⟨ha, -⟩⟩
  · exact (h.not_letter hx).2 rfl
  · exact (h.not_letter ha).1 rfl

theorem IsAlphabet.not_isMixed {e : Text} (h : IsAlphabet e) : ¬ IsMixed e := by
  rintro ⟨-, hx | ⟨-, c, hc, hinsertion⟩⟩
  · exact absurd (h.2 'X' hx) (by decide)
  · rw [h.2 c hc] at hinsertion
    exact absurd hinsertion (by decide)

end Picture
end Copybook
