import Copybook.Json.Token
import Copybook.Json.Writer
import Mathlib.Tactic.Common

/-!
Texts in JSON documents. Every text is read back from its written form, where each character stands
for itself, or a backslash and a letter stand for it, or the numbers of its one or two code units. -/
namespace Copybook
namespace Json
namespace Token

open Writer (escape codeUnit)

/-! ### Numbers of code units -/

def addDigit (code : Option Nat) (c : Char) : Option Nat :=
  code.bind fun n => (hexDigit? c).map (16 * n + ·)

theorem hexCode?_eq (digits : Text) : hexCode? digits = digits.foldl addDigit (some 0) := by
  cases digits with
  | nil => rfl
  | cons c r =>
    unfold hexCode?
    dsimp only
    congr 1
    funext code c
    cases code <;> cases h : hexDigit? c <;> simp [addDigit, h]

theorem hexDigit?_digitChar : ∀ n < 16, hexDigit? (Nat.digitChar n) = some n := by decide

theorem foldl_zeros (k : Nat) : (List.replicate k '0').foldl addDigit (some 0) = some 0 := by
  induction k with
  | zero => rfl
  | succ k ih =>
    rw [List.replicate_succ, List.foldl_cons]
    exact ih

theorem foldl_toDigits (n : Nat) : (Nat.toDigits 16 n).foldl addDigit (some 0) = some n := by
  induction n using Nat.strongRecOn with
  | ind n ih =>
    by_cases hn : n < 16
    · rw [Nat.toDigits_of_lt_base hn]
      simp [addDigit, hexDigit?_digitChar n hn]
    · rw [Nat.toDigits_of_base_le (by omega) (by omega), List.foldl_append, ih _ (by omega)]
      simp [addDigit, hexDigit?_digitChar (n % 16) (by omega)]
      omega

theorem hexCode?_hex (width n : Nat) : hexCode? (Text.hex width n) = some n := by
  rw [hexCode?_eq, Text.hex, Text.padLeft, List.foldl_append, foldl_zeros, foldl_toDigits]

theorem length_hex {n : Nat} (h : n < 0x10000) : (Text.hex 4 n).length = 4 := by
  have hlength : (Nat.toDigits 16 n).length ≤ 4 :=
    (Nat.length_toDigits_le_iff (by decide) (by decide)).mpr h
  rw [Text.hex, Text.padLeft, List.length_append, List.length_replicate]
  omega

theorem length_codeUnit {n : Nat} (h : n < 0x10000) : (codeUnit n).length = 6 := by
  rw [codeUnit, List.length_append, length_hex h]
  rfl

theorem codeUnit_append (n : Nat) (t : Text) :
    codeUnit n ++ t = '\\' :: 'u' :: (Text.hex 4 n ++ t) := rfl

/-! ### Escapes -/

/-- The forms in which a character is written. -/
inductive Form (c : Char) : Text → Prop
  | letter {e : Char} : escaped? e = some c → e.toNat < 0x80 → e ≠ '\r' → Form c ['\\', e]
  | plain : c ≠ '"' → c ≠ '\\' → 0x20 ≤ c.toNat → c.toNat < 0x80 → Form c [c]
  | single : c.toNat < 0x10000 → Form c (codeUnit c.toNat)
  | pair : 0x10000 ≤ c.toNat → Form c (codeUnit (0xD800 + (c.toNat - 0x10000) / 0x400) ++
      codeUnit (0xDC00 + (c.toNat - 0x10000) % 0x400))

theorem escape_form (c : Char) : Form c (escape c) := by
  unfold escape
  by_cases hquote : c = '"'
  · subst hquote
    exact .letter rfl (by decide) (by decide)
  by_cases hslash : c = '\\'
  · subst hslash
    exact .letter rfl (by decide) (by decide)
  by_cases hfeed : c = '\n'
  · subst hfeed
    exact .letter rfl (by decide) (by decide)
  by_cases hreturn : c = '\r'
  · subst hreturn
    exact .letter rfl (by decide) (by decide)
  by_cases htab : c = '\t'
  · subst htab
    exact .letter rfl (by decide) (by decide)
  by_cases hpage : c = '\x0c'
  · subst hpage
    exact .letter rfl (by decide) (by decide)
  by_cases hback : c = '\x08'
  · subst hback
    exact .letter rfl (by decide) (by decide)
  simp only [hquote, hslash, hfeed, hreturn, htab, hpage, hback, if_false]
  by_cases hplain : (decide (' ' ≤ c) && decide (c ≤ '~')) = true
  · obtain ⟨hblank, htilde⟩ : ' ' ≤ c ∧ c ≤ '~' := by simpa using hplain
    have hlow : 0x20 ≤ c.toNat := UInt32.le_iff_toNat_le.mp hblank
    have hhigh : c.toNat ≤ 0x7E := UInt32.le_iff_toNat_le.mp htilde
    rw [if_pos hplain]
    exact .plain hquote hslash hlow (by omega)
  rw [if_neg hplain]
  by_cases hsingle : c.toNat < 0x10000
  · rw [if_pos hsingle]
    exact .single hsingle
  · rw [if_neg hsingle]
    exact .pair (by omega)

variable {position start : Nat} {rest : Text}

theorem take_hex {n : Nat} (h : n < 0x10000) (rest : Text) :
    (Text.hex 4 n ++ rest).take 4 = Text.hex 4 n := by
  rw [List.take_append_of_le_length (Nat.le_of_eq (length_hex h).symm),
    List.take_of_length_le (Nat.le_of_eq (length_hex h))]

theorem drop_hex {n : Nat} (h : n < 0x10000) (rest : Text) :
    (Text.hex 4 n ++ rest).drop 4 = rest := by
  rw [List.drop_append, length_hex h,
    List.drop_of_length_le (Nat.le_of_eq (length_hex h))]
  rfl

theorem unicodeEscape_single (position : Nat) {n : Nat} (h : n < 0x10000) (hhigh : isHighHalf n = false)
    (hrest : rest ≠ []) : unicodeEscape position (Text.hex 4 n ++ rest) = .ok (charOf n, 4) := by
  have hlength : ¬ (Text.hex 4 n ++ rest).length ≤ 4 := by
    have hpositive := List.length_pos_iff.mpr hrest
    rw [List.length_append, length_hex h]
    omega
  rw [unicodeEscape, if_neg hlength, take_hex h, hexCode?_hex]
  simp [hhigh]

theorem unicodeEscape_pair (position : Nat) {high low : Nat} (hhigh : isHighHalf high = true)
    (hlow : isLowHalf low = true) (hrest : rest ≠ []) :
    unicodeEscape position (Text.hex 4 high ++ (codeUnit low ++ rest)) =
      .ok (Char.ofNat (0x10000 + (high - 0xD800) * 0x400 + (low - 0xDC00)), 10) := by
  have hhigh' : high < 0x10000 := by
    simp [isHighHalf] at hhigh
    omega
  have hlow' : low < 0x10000 := by
    simp [isLowHalf] at hlow
    omega
  have hpositive := List.length_pos_iff.mpr hrest
  have hafter : (codeUnit low ++ rest).length = 6 + rest.length := by
    rw [List.length_append, length_codeUnit hlow']
  have hlength : ¬ (Text.hex 4 high ++ (codeUnit low ++ rest)).length ≤ 4 := by
    rw [List.length_append, hafter]
    omega
  rw [unicodeEscape, if_neg hlength, take_hex hhigh', hexCode?_hex]
  dsimp only
  rw [drop_hex hhigh', hafter, codeUnit_append, List.drop_succ_cons, List.drop_succ_cons,
    List.drop_zero, take_hex hlow', hexCode?_hex]
  simp [hhigh, hlow, hpositive]

theorem readText_skip (start : Nat) (used rest : Text) (position : Nat) :
    readText start position used.length (used ++ rest) =
      readText start (position + used.length) 0 rest := by
  induction used generalizing position with
  | nil => rfl
  | cons c r ih =>
    rw [List.cons_append, List.length_cons, readText, ih]
    congr 1
    omega

theorem readText_letter {e c : Char} (h : escaped? e = some c) :
    readText start position 0 ('\\' :: e :: rest) =
      (readText start (position + 2) 0 rest).map fun (t, next) => (c :: t, next) := by
  have hu : e ≠ 'u' := by
    rintro rfl
    simp [escaped?] at h
  rw [readText]
  · simp [h, readText]
  · exact hu

theorem readText_code {used : Nat} {code : Text} {c : Char}
    (h : unicodeEscape (position + 1) code = .ok (c, used)) :
    readText start position 0 ('\\' :: 'u' :: code) =
      (readText start (position + 2) used code).map fun (t, next) => (c :: t, next) := by
  simp [readText, h]

theorem readText_plain {c : Char} (hquote : c ≠ '"') (hslash : c ≠ '\\') (h : 0x20 ≤ c.toNat) :
    readText start position 0 (c :: rest) =
      (readText start (position + 1) 0 rest).map fun (t, next) => (c :: t, next) := by
  rw [readText.eq_def]
  dsimp only
  rw [if_neg hquote, if_neg hslash, if_neg (by omega)]

theorem toNat_range (c : Char) :
    c.toNat < 0xD800 ∨ 0xE000 ≤ c.toNat ∧ c.toNat < 0x110000 := c.valid

theorem charOf_toNat (c : Char) : charOf c.toNat = c := by
  have hrange := toNat_range c
  have hnot : (0xD800 ≤ c.toNat && c.toNat < 0xE000 : Bool) = false := by
    simp
    omega
  rw [charOf, hnot]
  exact Char.ofNat_toNat c

theorem readText_single {c : Char} (h : c.toNat < 0x10000) (hrest : rest ≠ []) :
    readText start position 0 (codeUnit c.toNat ++ rest) =
      (readText start (position + (codeUnit c.toNat).length) 0 rest).map
        fun (t, next) => (c :: t, next) := by
  have hhigh : isHighHalf c.toNat = false := by
    have hrange := toNat_range c
    simp [isHighHalf]
    omega
  have hcode := unicodeEscape_single (position + 1) h hhigh hrest
  rw [charOf_toNat] at hcode
  have hskip := readText_skip start (Text.hex 4 c.toNat) rest (position + 2)
  rw [length_hex h] at hskip
  rw [length_codeUnit h, codeUnit_append, readText_code hcode, hskip]

theorem readText_pair {c : Char} (h : 0x10000 ≤ c.toNat) (hrest : rest ≠ []) :
    readText start position 0 (codeUnit (0xD800 + (c.toNat - 0x10000) / 0x400) ++
        codeUnit (0xDC00 + (c.toNat - 0x10000) % 0x400) ++ rest) =
      (readText start (position + 12) 0 rest).map fun (t, next) => (c :: t, next) := by
  have hrange := toNat_range c
  generalize hhigh : 0xD800 + (c.toNat - 0x10000) / 0x400 = high
  generalize hlow : 0xDC00 + (c.toNat - 0x10000) % 0x400 = low
  have hhalf : isHighHalf high = true := by
    simp [isHighHalf]
    omega
  have hother : isLowHalf low = true := by
    simp [isLowHalf]
    omega
  have hsum : 0x10000 + (high - 0xD800) * 0x400 + (low - 0xDC00) = c.toNat := by omega
  have hcode := unicodeEscape_pair (position + 1) hhalf hother hrest
  rw [hsum, Char.ofNat_toNat] at hcode
  have hskip := readText_skip start (Text.hex 4 high ++ codeUnit low) rest (position + 2)
  have hused : (Text.hex 4 high ++ codeUnit low).length = 10 := by
    rw [List.length_append, length_hex (by omega), length_codeUnit (by omega)]
  rw [hused, List.append_assoc] at hskip
  rw [List.append_assoc, codeUnit_append, readText_code hcode, hskip]

theorem readText_escape (c : Char) (hrest : rest ≠ []) :
    readText start position 0 (escape c ++ rest) =
      (readText start (position + (escape c).length) 0 rest).map fun (t, next) => (c :: t, next) := by
  have hform := escape_form c
  generalize escape c = written at *
  cases hform with
  | letter he => exact readText_letter he
  | plain hquote hslash hblank => exact readText_plain hquote hslash hblank
  | single h => exact readText_single h hrest
  | pair h =>
    have hrange := toNat_range c
    rw [List.length_append, length_codeUnit (by omega), length_codeUnit (by omega)]
    exact readText_pair h hrest

theorem readText_text (start : Nat) (t rest : Text) (position : Nat) :
    readText start position 0 (t.flatMap escape ++ '"' :: rest) =
      .ok (t, position + (t.flatMap escape).length + 1) := by
  induction t generalizing position with
  | nil => simp [readText.eq_def]
  | cons c r ih =>
    rw [List.flatMap_cons, List.append_assoc, readText_escape c (by simp), ih, List.length_append,
      ← Nat.add_assoc]
    rfl

theorem first_text (t rest : Text) :
    first position (Writer.text t ++ rest) = (.text t, (Writer.text t).length) := by
  have hread := readText_text position t rest (position + 1)
  have hform : Writer.text t ++ rest = '"' :: (t.flatMap escape ++ '"' :: rest) := by
    simp [Writer.text]
  rw [hform, first, hread]
  simp [Writer.text]
  omega

/-! ### Characters -/

def IsBasic (c : Char) : Prop := c.toNat < 0x80 ∧ c ≠ '\r'

instance (c : Char) : Decidable (IsBasic c) := inferInstanceAs (Decidable (_ ∧ _))

theorem isBasic_of_mem_toDigits {n : Nat} {d : Char} (h : d ∈ Nat.toDigits 16 n) : IsBasic d := by
  have hdigit : ∀ k < 16, IsBasic (Nat.digitChar k) := by decide
  induction n using Nat.strongRecOn with
  | ind n ih =>
    by_cases hn : n < 16
    · rw [Nat.toDigits_of_lt_base hn, List.mem_singleton] at h
      rw [h]
      exact hdigit n hn
    · rw [Nat.toDigits_of_base_le (by omega) (by omega), List.mem_append, List.mem_singleton] at h
      rcases h with h | rfl
      · exact ih (n / 16) (by omega) h
      · exact hdigit _ (by omega)

theorem isBasic_of_mem_codeUnit {n : Nat} {d : Char} (h : d ∈ codeUnit n) : IsBasic d := by
  rw [← List.append_nil (codeUnit n), codeUnit_append, List.append_nil, Text.hex, Text.padLeft] at h
  simp only [List.mem_cons, List.mem_append, List.mem_replicate] at h
  rcases h with rfl | rfl | ⟨-, rfl⟩ | h
  · decide
  · decide
  · decide
  · exact isBasic_of_mem_toDigits h

theorem isBasic_of_mem_escape {c d : Char} (h : d ∈ escape c) : IsBasic d := by
  have hform := escape_form c
  generalize escape c = written at *
  cases hform with
  | letter _ hcode hreturn =>
    rcases List.mem_cons.mp h with rfl | h
    · decide
    · rw [List.mem_singleton.mp h]
      exact ⟨hcode, hreturn⟩
  | plain _ _ hblank hcode =>
    rw [List.mem_singleton.mp h]
    refine ⟨hcode, ?_⟩
    rintro rfl
    exact absurd hblank (by decide)
  | single => exact isBasic_of_mem_codeUnit h
  | pair =>
    rcases List.mem_append.mp h with h | h
    · exact isBasic_of_mem_codeUnit h
    · exact isBasic_of_mem_codeUnit h

theorem isBasic_of_mem_text {t : Text} {d : Char} (h : d ∈ Writer.text t) : IsBasic d := by
  simp only [Writer.text, List.cons_append, List.mem_cons, List.mem_append, List.mem_flatMap,
    List.not_mem_nil, or_false] at h
  rcases h with rfl | ⟨c, -, h⟩ | rfl
  · decide
  · exact isBasic_of_mem_escape h
  · decide

end Token
end Json
end Copybook
