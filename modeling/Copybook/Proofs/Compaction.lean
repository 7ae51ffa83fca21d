import Copybook.Proofs.Capitals
import Copybook.Proofs.Expansion

/-!
Short forms of pictures. A text without an opening parenthesis is the expansion of one canonical
picture, in which every run of a repeatable symbol stands once with its count, and this picture is the
short form of the text. So compacting and expanding undo each other. -/
namespace Copybook
namespace Picture

open Rule (Digits)

def repeatableSymbols : List Char := ['X', 'A', '9', 'Z', 'x', 'a', 'z']

/-- A part of a canonical picture: a single symbol, or a repeatable one with a count. -/
inductive Part
  | single (symbol : Char) (h : symbol ≠ '(')
  | repeated (symbol : Char) (count : Nat) (h : symbol ∈ repeatableSymbols) (hcount : 2 ≤ count)

namespace Part

def symbol : Part → Char
  | single symbol _ => symbol
  | repeated symbol _ _ _ => symbol

def count : Part → Nat
  | single _ _ => 1
  | repeated _ count _ _ => count

def text : Part → Text
  | single symbol _ => [symbol]
  | repeated symbol count _ _ => symbol :: '(' :: (Text.ofNat count ++ [')'])

def expansion (p : Part) : Text := List.replicate p.count p.symbol

def run (p : Part) : Char × Nat := (p.symbol, p.count)

end Part

/-- Whether parts that stand side by side never have the same repeatable symbol. -/
def Canonical (parts : List Part) : Prop :=
  parts.IsChain fun p q => p.symbol ∈ repeatableSymbols → p.symbol ≠ q.symbol

/-! ### Repeatable symbols -/

theorem isRepeatable_ascii : ∀ n < 0x80,
    isRepeatable (Char.ofNat n) = repeatableSymbols.contains (Char.ofNat n) := by
  decide +kernel

theorem isRepeatable_iff (c : Char) : isRepeatable c = true ↔ c ∈ repeatableSymbols := by
  by_cases hascii : c.toNat < 0x80
  · have h := isRepeatable_ascii c.toNat hascii
    rw [Char.ofNat_toNat] at h
    rw [h, List.contains_iff_mem]
  · refine iff_of_false ?_ ?_
    · intro h
      rw [isRepeatable, capitalIn] at h
      split at h
      · rename_i d hd
        have hsymbols : ∀ d ∈ ['X', 'A', '9', 'Z'], d ≠ 'I' ∧ d ≠ 'S' ∧ d.toNat < 0x80 := by decide
        obtain ⟨hi, hs, hlow⟩ := hsymbols d (List.contains_iff_mem.mp h)
        rcases Case.capital_of_wide (Nat.not_lt.mp hascii) hd with rfl | rfl | hwide
        · exact hi rfl
        · exact hs rfl
        · omega
      · cases h
    · intro hmem
      have hsymbols : ∀ d ∈ repeatableSymbols, d.toNat < 0x80 := by decide
      exact hascii (hsymbols c hmem)

/-! ### Runs -/

theorem runs_cons_of_head {c : Char} {t : Text}
    (h : ∀ run ∈ (runs t).head?, c ∈ repeatableSymbols → c ≠ run.1) :
    runs (c :: t) = (c, 1) :: runs t := by
  rw [runs]
  cases hruns : runs t with
  | nil => rfl
  | cons run rest =>
    have hapart : (c = run.1 && isRepeatable c) = false := by
      rw [Bool.and_eq_false_iff, decide_eq_false_iff_not, Bool.eq_false_iff, ne_eq, isRepeatable_iff]
      by_cases hmem : c ∈ repeatableSymbols
      · exact .inl (h run (by rw [hruns]; rfl) hmem)
      · exact .inr hmem
    simp [hapart]

theorem runs_cons_same {c : Char} (hc : c ∈ repeatableSymbols) {n : Nat} {t : Text}
    {rest : List (Char × Nat)} (h : runs t = (c, n) :: rest) : runs (c :: t) = (c, n + 1) :: rest := by
  simp [runs, h, (isRepeatable_iff c).mpr hc]

theorem runs_part (p : Part) {t : Text}
    (h : ∀ run ∈ (runs t).head?, p.symbol ∈ repeatableSymbols → p.symbol ≠ run.1) :
    runs (p.expansion ++ t) = p.run :: runs t := by
  cases p with
  | single c hc => exact runs_cons_of_head h
  | repeated c n hc hn =>
    obtain ⟨k, rfl⟩ : ∃ k, n = k + 1 := ⟨n - 1, by omega⟩
    have hrun : ∀ k, runs (List.replicate (k + 1) c ++ t) = (c, k + 1) :: runs t := by
      intro k
      induction k with
      | zero => exact runs_cons_of_head h
      | succ k ih => exact runs_cons_same hc ih
    exact hrun k

theorem runs_expansion {parts : List Part} (h : Canonical parts) :
    runs (parts.flatMap Part.expansion) = parts.map Part.run := by
  induction parts with
  | nil => rfl
  | cons p parts ih =>
    have hlater := ih h.of_cons
    have hhead : ∀ run ∈ (runs (parts.flatMap Part.expansion)).head?,
        p.symbol ∈ repeatableSymbols → p.symbol ≠ run.1 := by
      rw [hlater]
      cases parts with
      | nil => simp
      | cons q parts =>
        rintro run ⟨⟩
        exact (List.isChain_cons_cons.mp h).1
    rw [List.flatMap_cons, runs_part p hhead, hlater, List.map_cons]

theorem writeRun_run (p : Part) : writeRun p.run = p.text := by
  cases p with
  | single c h => rfl
  | repeated c n h hn => exact if_pos hn

theorem compact_expansion {parts : List Part} (h : Canonical parts) :
    compact (parts.flatMap Part.expansion) = parts.flatMap Part.text := by
  rw [compact, runs_expansion h, List.flatMap_map]
  simp only [writeRun_run]

/-! ### Canonical pictures -/

/-- What can stand in front of other parts depends on the symbols alone. -/
theorem Canonical.replace {p q : Part} {parts : List Part} (h : Canonical (p :: parts))
    (hsymbol : q.symbol = p.symbol) : Canonical (q :: parts) := by
  cases parts with
  | nil => exact List.IsChain.singleton q
  | cons first parts =>
    obtain ⟨hfirst, hlater⟩ := List.isChain_cons_cons.mp h
    exact List.isChain_cons_cons.mpr ⟨hsymbol ▸ hfirst, hlater⟩

/-- Every text without an opening parenthesis is the expansion of a canonical picture. -/
theorem exists_parts {s : Text} (h : '(' ∉ s) :
    ∃ parts : List Part, parts.flatMap Part.expansion = s ∧ Canonical parts := by
  induction s with
  | nil => exact ⟨[], rfl, List.IsChain.nil⟩
  | cons c s ih =>
    obtain ⟨hc, hs⟩ := not_or.mp (mt List.mem_cons.mpr h)
    obtain ⟨parts, rfl, hparts⟩ := ih hs
    cases parts with
    | nil => exact ⟨[.single c (Ne.symm hc)], rfl, List.IsChain.singleton _⟩
    | cons p parts =>
      by_cases hsame : c ∈ repeatableSymbols ∧ c = p.symbol
      · obtain ⟨hmem, rfl⟩ := hsame
        have hcount : 1 ≤ p.count := by
          cases p with
          | single d hd => exact Nat.le_refl 1
          | repeated d n hd hn => exact Nat.le_of_succ_le hn
        refine ⟨.repeated p.symbol (p.count + 1) hmem (Nat.succ_le_succ hcount) :: parts, rfl, ?_⟩
        exact hparts.replace rfl
      · refine ⟨.single c (Ne.symm hc) :: p :: parts, rfl, List.isChain_cons_cons.mpr ⟨?_, hparts⟩⟩
        exact fun hmem hequal => hsame ⟨hmem, hequal⟩

/-! ### Expanding -/

namespace Count

theorem not_mem_ofNat (n : Nat) : ')' ∉ Text.ofNat n := fun h =>
  absurd ((Digits.ofNat n).isDigit _ h) (by decide)

def ofNat (n : Nat) : Count where
  text := Text.ofNat n
  digits := Digits.ofNat n
  text_closed := not_mem_ofNat n
  digits_text := (Digits.ofNat n).trim_text.symm

end Count

namespace Part

def item : Part → Item
  | single symbol h => ⟨symbol, [], h⟩
  | repeated symbol count h _ => ⟨symbol, [Count.ofNat count], by rintro rfl; exact absurd h (by decide)⟩

theorem item_text (p : Part) : p.item.text = p.text := by
  cases p with
  | single c h => rfl
  | repeated c n h hn => simp [item, Item.text, Count.group, Count.ofNat, text]

theorem item_expansion (p : Part) : p.item.expansion = p.expansion := by
  cases p with
  | single c h => rfl
  | repeated c n h hn =>
    have hproduct : product [Count.ofNat n] = n := by
      rw [product, List.map_singleton, List.prod_singleton]
      exact Digits.value_ofNat n
    rw [item, Item.expansion, hproduct]
    rfl

theorem item_spec {p : Part} (h : p.count ≤ maxLength) :
    (∀ c ∈ p.item.counts, c.IsWithinLimit) ∧ p.item.Fits := by
  cases p with
  | single c hc => exact ⟨by simp [item], fit_nil one_le⟩
  | repeated c n hc hn =>
    have hvalue : (Count.ofNat n).value = n := Digits.value_ofNat n
    have hlength : (Text.ofNat n).length ≤ Numeral.digitLimit := by
      have hpow : n < 10 ^ 19 := Nat.lt_of_le_of_lt h (by decide)
      exact le_trans ((Nat.length_toDigits_le_iff (by decide) (by decide)).mpr hpow) (by decide)
    refine ⟨fun d hd => ?_, (fit_cons_iff one_le).mpr ?_⟩
    · obtain rfl := List.mem_singleton.mp hd
      exact hlength
    · rw [hvalue, Nat.one_mul]
      exact ⟨h, h, fit_nil h⟩

end Part

theorem expand_parts {parts : List Part} (h : (parts.flatMap Part.expansion).length ≤ maxLength) :
    expand (parts.flatMap Part.text) = .ok (parts.flatMap Part.expansion) := by
  have hcount : ∀ p ∈ parts, p.count ≤ maxLength := by
    intro p hp
    have hpart : p.expansion.length ≤ _ := Text.length_le_flatMap hp
    rw [Part.expansion, List.length_replicate] at hpart
    exact hpart.trans h
  have hlimit : ∀ i ∈ parts.map Part.item, ∀ c ∈ i.counts, c.IsWithinLimit :=
    List.forall_mem_map.mpr fun p hp => (Part.item_spec (hcount p hp)).1
  have hfits : ∀ i ∈ parts.map Part.item, i.Fits :=
    List.forall_mem_map.mpr fun p hp => (Part.item_spec (hcount p hp)).2
  simpa only [List.flatMap_map, Part.item_text, Part.item_expansion] using expand_items hlimit hfits

/-- Expanding undoes compacting, and compacting undoes the expansion of a canonical picture, as long as
what is expanded is no longer than a text can be. -/
theorem compact_expand :
    (∀ s : Text, '(' ∉ s → s.length ≤ maxLength → expand (compact s) = .ok s) ∧
      ∀ parts : List Part, Canonical parts → (parts.flatMap Part.expansion).length ≤ maxLength →
        (expand (parts.flatMap Part.text)).map compact = .ok (parts.flatMap Part.text) := by
  constructor
  · intro s hs hlength
    obtain ⟨parts, rfl, hparts⟩ := exists_parts hs
    rw [compact_expansion hparts, expand_parts hlength]
  · intro parts hparts hlength
    rw [expand_parts hlength, Except.map, compact_expansion hparts]

def sampleParts : List Part :=
  [.repeated 'a' 2 (by decide) (by decide), .single 'A' (by decide), .single ')' (by decide),
    .single 'B' (by decide), .single 'B' (by decide), .repeated '9' 10 (by decide) (by decide)]

theorem compact_expand_sample :
    '(' ∉ ("aaA)BB9999999999" : Text) ∧ ("aaA)BB9999999999" : Text).length ≤ maxLength ∧
      compact "aaA)BB9999999999" = "a(2)A)BB9(10)" ∧
      expand "a(2)A)BB9(10)" = .ok "aaA)BB9999999999" ∧
      Canonical sampleParts ∧ sampleParts.flatMap Part.text = "a(2)A)BB9(10)" ∧
      (expand "a(2)A)BB9(10)").map compact = .ok "a(2)A)BB9(10)" := by
  have hs : '(' ∉ ("aaA)BB9999999999" : Text) := by decide
  have hlength : ("aaA)BB9999999999" : Text).length ≤ maxLength := by decide
  have hcompact : compact "aaA)BB9999999999" = "a(2)A)BB9(10)" := by decide +kernel
  have hcanonical : Canonical sampleParts := by
    simp [Canonical, sampleParts, Part.symbol, repeatableSymbols]
  obtain ⟨hexpand, hparts⟩ := compact_expand
  refine ⟨hs, hlength, hcompact, ?_, hcanonical, by decide, ?_⟩
  · exact hcompact ▸ hexpand _ hs hlength
  · exact hparts sampleParts hcanonical hlength

/-- A count that no text is long enough for. -/
def overlongPart : Part := .repeated 'X' 99999999999999999999 (by decide) (by decide)

theorem expand_overlong : Canonical [overlongPart] ∧
    [overlongPart].flatMap Part.text = "X(99999999999999999999)" ∧
      expand "X(99999999999999999999)" = .error (.repetition .countTooBig) ∧
      (expand "X(99999999999999999999)").map compact ≠ .ok "X(99999999999999999999)" := by
  have hexpand : expand "X(99999999999999999999)" = .error (.repetition .countTooBig) := by
    decide +kernel
  refine ⟨List.IsChain.singleton _, by decide +kernel, hexpand, ?_⟩
  rw [hexpand]
  rintro ⟨⟩

end Picture
end Copybook
