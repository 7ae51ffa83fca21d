import Copybook.Text.Case
import Mathlib.Tactic.Common

/-!
Capitals. A character that is in neither table of capitals is its own capital, and what has been put
in capitals stays as it is when that is done again. -/
namespace Copybook
namespace Case

/-- Whether a character code is in neither table of capitals. -/
structure IsUnlisted (n : Nat) : Prop where
  long : ∀ entry ∈ longCapitals, entry.1 ≠ n
  runs : ∀ r ∈ capitalRuns, r.holds n = false

theorem capital_of_isUnlisted {c : Char} (hwide : 0x80 ≤ c.toNat) (h : IsUnlisted c.toNat) :
    capital c = [c] := by
  have hlookup : longCapitals.lookup c.toNat = none := by
    rw [List.lookup_eq_none_iff]
    intro entry hentry
    simpa using Ne.symm (h.long entry hentry)
  have hnone : (capitalRuns.find? fun r => r.holds c.toNat) = none := by
    rw [List.find?_eq_none]
    intro r hr
    simp [h.runs r hr]
  rw [capital, if_neg (by omega), hlookup, move, hnone]

/-- The lowest and the highest character code to which a run leads. -/
def Run.lowest (r : Run) : Nat := (r.first + r.shift).toNat

def Run.highest (r : Run) : Nat := (r.last + r.shift).toNat

/-- Whether a run whose characters stand alone or two apart leads to every second character only. -/
def Run.isAlternating (r : Run) : Bool := r.step == 2 || r.first == r.last

/-- Whether what a run leads to is left alone by another run: it lies before or behind it, or it
falls into its gaps. -/
def Run.passes (r q : Run) : Bool :=
  Nat.blt r.highest q.first || Nat.blt q.last r.lowest ||
    (Nat.beq q.step 2 && r.isAlternating && Nat.beq ((r.lowest + q.first) % 2) 1)

theorem runs_pass : ∀ r ∈ capitalRuns, ∀ q ∈ capitalRuns, r.passes q = true := by
  have h : (capitalRuns.all fun r => capitalRuns.all r.passes) = true := by decide +kernel
  simpa only [List.all_eq_true] using h

theorem runs_pass_long : ∀ r ∈ capitalRuns, ∀ entry ∈ longCapitals,
    r.highest < entry.1 ∨ entry.1 < r.lowest := by
  have h : (capitalRuns.all fun r => longCapitals.all fun entry =>
      Nat.blt r.highest entry.1 || Nat.blt entry.1 r.lowest) = true := by decide +kernel
  simpa only [List.all_eq_true, Bool.or_eq_true, Nat.blt_eq] using h

theorem runs_step : ∀ r ∈ capitalRuns, (r.step = 1 ∨ r.step = 2) ∧ 0 ≤ r.first + r.shift := by
  decide +kernel

theorem Run.holds_spec {r : Run} (hr : r ∈ capitalRuns) {n : Nat} (h : r.holds n = true) :
    r.lowest ≤ (n + r.shift).toNat ∧ (n + r.shift).toNat ≤ r.highest ∧
      (r.isAlternating = true → (n + r.shift).toNat % 2 = r.lowest % 2) := by
  obtain ⟨hstep, hlow⟩ := runs_step r hr
  simp only [holds, Bool.and_eq_true, decide_eq_true_eq, beq_iff_eq] at h
  obtain ⟨⟨hfirst, hlast⟩, hmod⟩ := h
  refine ⟨?_, ?_, ?_⟩
  · unfold lowest
    omega
  · unfold highest
    omega
  · intro halternating
    simp only [isAlternating, Bool.or_eq_true, beq_iff_eq] at halternating
    unfold lowest
    rcases halternating with htwo | hsame
    · rw [htwo] at hmod
      omega
    · obtain rfl : n = r.first := by omega
      rfl

theorem Run.isUnlisted {r : Run} (hr : r ∈ capitalRuns) {n : Nat} (h : r.holds n = true) :
    IsUnlisted (n + r.shift).toNat := by
  obtain ⟨hlow, hhigh, hparity⟩ := holds_spec hr h
  constructor
  · intro entry hentry
    have hpass := runs_pass_long r hr entry hentry
    omega
  · intro q hq
    have hpass := runs_pass r hr q hq
    simp only [passes, Bool.or_eq_true, Bool.and_eq_true, Nat.blt_eq, Nat.beq_eq] at hpass
    rw [Bool.eq_false_iff]
    intro hholds
    simp only [holds, Bool.and_eq_true, decide_eq_true_eq, beq_iff_eq] at hholds
    obtain ⟨⟨hfirst, hlast⟩, hmod⟩ := hholds
    rcases hpass with (hbefore | hbehind) | ⟨⟨htwo, halternating⟩, hodd⟩
    · omega
    · omega
    · rw [htwo] at hmod
      have hsame := hparity halternating
      omega

theorem runs_valid : ∀ r ∈ capitalRuns,
    r.highest < 0xD800 ∨ 0xDFFF < r.lowest ∧ r.highest < 0x110000 := by
  decide +kernel

theorem Run.toNat_move {r : Run} (hr : r ∈ capitalRuns) {n : Nat} (h : r.holds n = true) :
    (Char.ofNat (n + r.shift).toNat).toNat = (n + r.shift).toNat := by
  obtain ⟨hlow, hhigh, -⟩ := holds_spec hr h
  have hrange := runs_valid r hr
  generalize (n + r.shift).toNat = code at *
  have hvalid : code.isValidChar := by
    rcases hrange with hbefore | hbehind
    · exact .inl (by omega)
    · exact .inr (by omega)
  rw [Char.ofNat, dif_pos hvalid]
  rfl

/-- How a character is put in capitals. -/
inductive IsCapital (c : Char) : Text → Prop
  | ascii (h : c.toNat < 0x80) : IsCapital c [c.toUpper]
  | long {codes : List Nat} (hwide : 0x80 ≤ c.toNat) (h : (c.toNat, codes) ∈ longCapitals) :
      IsCapital c (codes.map Char.ofNat)
  | run {r : Run} (hwide : 0x80 ≤ c.toNat) (hr : r ∈ capitalRuns) (h : r.holds c.toNat = true) :
      IsCapital c [Char.ofNat (c.toNat + r.shift).toNat]
  | unlisted (hwide : 0x80 ≤ c.toNat) (h : capital c = [c]) : IsCapital c [c]

theorem isCapital (c : Char) : IsCapital c (capital c) := by
  by_cases hascii : c.toNat < 0x80
  · rw [capital, if_pos hascii]
    exact .ascii hascii
  · have hwide : 0x80 ≤ c.toNat := Nat.not_lt.mp hascii
    cases hlookup : longCapitals.lookup c.toNat with
    | some codes =>
      obtain ⟨before, after, hsplit, -⟩ := List.lookup_eq_some_iff.mp hlookup
      rw [capital, if_neg hascii, hlookup]
      exact .long hwide (by simp [hsplit])
    | none =>
      cases hfind : capitalRuns.find? fun r => r.holds c.toNat with
      | some r =>
        rw [capital, if_neg hascii, hlookup, move, hfind]
        exact .run hwide (List.mem_of_find?_eq_some hfind) (by simpa using List.find?_some hfind)
      | none =>
        have hself : capital c = [c] := by rw [capital, if_neg hascii, hlookup, move, hfind]
        rw [hself]
        exact .unlisted hwide hself

theorem forall_ascii {P : Char → Prop} (h : ∀ n < 0x80, P (Char.ofNat n)) (c : Char)
    (hc : c.toNat < 0x80) : P c := by
  have hp := h c.toNat hc
  rwa [Char.ofNat_toNat] at hp

theorem capital_toUpper : ∀ n < 0x80, capital (Char.ofNat n).toUpper = [(Char.ofNat n).toUpper] := by
  decide +kernel

theorem capital_long : ∀ entry ∈ longCapitals, ∀ n ∈ entry.2,
    capital (Char.ofNat n) = [Char.ofNat n] := by
  decide +kernel

theorem runs_ascii : ∀ r ∈ capitalRuns, 0x80 ≤ r.lowest ∨
    r.highest = r.lowest ∧ (r.lowest = 'I'.toNat ∨ r.lowest = 'S'.toNat) := by
  decide +kernel

theorem capital_move {r : Run} (hr : r ∈ capitalRuns) {n : Nat} (h : r.holds n = true) :
    capital (Char.ofNat (n + r.shift).toNat) = [Char.ofNat (n + r.shift).toNat] := by
  have hunlisted := Run.isUnlisted hr h
  have hcode := Run.toNat_move hr h
  obtain ⟨hlow, hhigh, -⟩ := Run.holds_spec hr h
  generalize (n + r.shift).toNat = code at *
  rcases runs_ascii r hr with hwide | ⟨hsingle, hletter⟩
  · exact capital_of_isUnlisted (by omega) (hcode.symm ▸ hunlisted)
  · obtain rfl : code = r.lowest := by omega
    rcases hletter with hletter | hletter
    · rw [hletter]
      decide
    · rw [hletter]
      decide

theorem long_capitals : ∀ entry ∈ longCapitals, 2 ≤ entry.2.length := by
  decide

theorem capital_of_wide {c d : Char} (hwide : 0x80 ≤ c.toNat) (h : capital c = [d]) :
    d = 'I' ∨ d = 'S' ∨ 0x80 ≤ d.toNat := by
  have hcapital := isCapital c
  rw [h] at hcapital
  generalize htext : [d] = t at hcapital
  cases hcapital with
  | ascii hascii => omega
  | @long codes _ hlisted =>
    have hlong : 2 ≤ codes.length := long_capitals _ hlisted
    have hlength := congrArg List.length htext
    rw [List.length_map, List.length_singleton] at hlength
    omega
  | @run r _ hr hholds =>
    obtain rfl := List.singleton_inj.mp htext
    have hcode := Run.toNat_move hr hholds
    obtain ⟨hlow, hhigh, -⟩ := Run.holds_spec hr hholds
    generalize (c.toNat + r.shift).toNat = code at *
    rcases runs_ascii r hr with hascii | ⟨hsingle, hletter⟩
    · exact .inr (.inr (by omega))
    · obtain rfl : code = r.lowest := by omega
      rcases hletter with hletter | hletter
      · exact .inl (by rw [hletter, Char.ofNat_toNat])
      · exact .inr (.inl (by rw [hletter, Char.ofNat_toNat]))
  | unlisted =>
    obtain rfl := List.singleton_inj.mp htext
    exact .inr (.inr hwide)

/-- Nothing beyond ASCII becomes a character of ASCII in capitals, but for two letters. -/
theorem narrow_of_capital {c d : Char} (hd : d ≠ 'I' ∧ d ≠ 'S' ∧ d.toNat < 0x80)
    (h : capital c = [d]) : c.toNat < 0x80 := by
  by_contra hwide
  rcases capital_of_wide (by omega) h with hi | hs | hd'
  · exact hd.1 hi
  · exact hd.2.1 hs
  · omega

theorem capital_of_mem_capital {c d : Char} (h : d ∈ capital c) : capital d = [d] := by
  have hcapital := isCapital c
  generalize capital c = t at h hcapital
  cases hcapital with
  | ascii hascii =>
    obtain rfl := List.mem_singleton.mp h
    have hupper : ∀ c : Char, c.toNat < 0x80 → capital c.toUpper = [c.toUpper] :=
      forall_ascii capital_toUpper
    exact hupper c hascii
  | @long codes _ hlisted =>
    obtain ⟨n, hn, rfl⟩ := List.mem_map.mp h
    exact capital_long _ hlisted n hn
  | run _ hr hholds =>
    obtain rfl := List.mem_singleton.mp h
    exact capital_move hr hholds
  | unlisted _ hself =>
    obtain rfl := List.mem_singleton.mp h
    exact hself

end Case

namespace Text

def IsUpper (t : Text) : Prop := ∀ c ∈ t, Case.capital c = [c]

theorem IsUpper.upper_eq {t : Text} (h : IsUpper t) : t.upper = t := by
  induction t with
  | nil => rfl
  | cons c r ih =>
    obtain ⟨hc, hr⟩ := List.forall_mem_cons.mp h
    have hupper : upper (c :: r) = Case.capital c ++ upper r := rfl
    rw [hupper, hc, ih hr, List.singleton_append]

theorem isUpper_upper (t : Text) : IsUpper t.upper := by
  intro d hd
  obtain ⟨c, -, hc⟩ := List.mem_flatMap.mp hd
  exact Case.capital_of_mem_capital hc

end Text
end Copybook
