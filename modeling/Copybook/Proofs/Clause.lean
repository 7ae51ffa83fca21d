import Copybook.Entry
import Copybook.Proofs.Capitals
import Copybook.Proofs.Files
import Copybook.Proofs.Text

/-!
Data description entries and their words. However the words of an entry are spaced and spelled, and
in whatever order its clauses stand, each clause is found again, and nothing that stands in another
clause is taken for it. -/
namespace Copybook
namespace Text

variable {t word : Text} {words : List Text}

/-- Words have at least one character, and none that is a blank. -/
structure IsWord (word : Text) : Prop where
  ne_nil : word ≠ []
  solid : ∀ c ∈ word, isBlank c = false

/-- Texts in which words stand in order, with blanks between them and perhaps around them. -/
inductive Spaced : List Text → Text → Prop
  | nil {gap : Text} (hgap : IsBlankText gap) : Spaced [] gap
  | cons {gap word rest : Text} {words : List Text} (hgap : IsBlankText gap) (hword : IsWord word)
      (hnext : ∀ c, rest.head? = some c → isBlank c = true) (hrest : Spaced words rest) :
      Spaced (word :: words) (gap ++ word ++ rest)

theorem words_blanks_append {gap : Text} (h : IsBlankText gap) (t : Text) :
    Text.words (gap ++ t) = t.words := by
  induction gap with
  | nil => rfl
  | cons c gap ih =>
    obtain ⟨hc, hgap⟩ := List.forall_mem_cons.mp h
    rw [List.cons_append, words_blank_cons hc, ih hgap]

theorem splitWords_append {s : Text} (h : ∀ c ∈ s, isBlank c = false) (t : Text) :
    splitWords (s ++ t) = (s ++ (splitWords t).1, (splitWords t).2) := by
  induction s with
  | nil => rfl
  | cons c s ih =>
    obtain ⟨hc, hs⟩ := List.forall_mem_cons.mp h
    simp [splitWords, hc, ih hs]

theorem splitWords_of_blank (h : ∀ c, t.head? = some c → isBlank c = true) :
    splitWords t = ([], t.words) := by
  cases t with
  | nil => rfl
  | cons c r =>
    have hc : isBlank c = true := h c rfl
    rw [words_blank_cons hc, splitWords, if_pos hc]
    rfl

theorem words_word_append (hword : IsWord word)
    (hnext : ∀ c, t.head? = some c → isBlank c = true) :
    Text.words (word ++ t) = word :: t.words := by
  rw [Text.words, splitWords_append hword.solid, splitWords_of_blank hnext, List.append_nil]
  simp [consWord, hword.ne_nil]

theorem Spaced.words_eq (h : Spaced words t) : t.words = words := by
  induction h with
  | nil hgap => simpa using words_blanks_append hgap []
  | cons hgap hword hnext _ ih =>
    rw [List.append_assoc, words_blanks_append hgap, words_word_append hword hnext, ih]

theorem Spaced.blank_cons {c : Char} (hc : isBlank c = true) (h : Spaced words t) :
    Spaced words (c :: t) := by
  cases h with
  | nil hgap => exact .nil (List.forall_mem_cons.mpr ⟨hc, hgap⟩)
  | @cons gap word rest words hgap hword hnext hrest =>
    have hwider : Spaced (word :: words) ((c :: gap) ++ word ++ rest) :=
      .cons (List.forall_mem_cons.mpr ⟨hc, hgap⟩) hword hnext hrest
    exact hwider

theorem spaced_consWord (hsolid : ∀ c ∈ word, isBlank c = false)
    (hnext : ∀ c, t.head? = some c → isBlank c = true) (h : Spaced words t) :
    Spaced (consWord word words) (word ++ t) := by
  cases word with
  | nil => exact h
  | cons c r =>
    have hwords : Spaced ((c :: r) :: words) ([] ++ (c :: r) ++ t) :=
      .cons (by simp [IsBlankText]) ⟨by simp, hsolid⟩ hnext h
    exact hwords

theorem splitWords_spaced (t : Text) :
    ∃ rest, t = (splitWords t).1 ++ rest ∧ (∀ c ∈ (splitWords t).1, isBlank c = false) ∧
      (∀ c, rest.head? = some c → isBlank c = true) ∧ Spaced (splitWords t).2 rest := by
  induction t with
  | nil => exact ⟨[], rfl, by simp [splitWords], by simp, .nil (by simp [IsBlankText])⟩
  | cons c r ih =>
    obtain ⟨rest, hr, hsolid, hnext, hspaced⟩ := ih
    cases hc : isBlank c with
    | false =>
      refine ⟨rest, ?_, ?_, hnext, ?_⟩
      · simp [splitWords, hc, ← hr]
      · simpa [splitWords, hc] using hsolid
      · simpa [splitWords, hc] using hspaced
    | true =>
      have hwords : Spaced (consWord (splitWords r).1 (splitWords r).2) r := by
        have h := spaced_consWord hsolid hnext hspaced
        rwa [← hr] at h
      refine ⟨c :: r, ?_, ?_, ?_, ?_⟩
      · simp [splitWords, hc]
      · simp [splitWords, hc]
      · simp [hc]
      · simpa [splitWords, hc] using hwords.blank_cons hc

theorem spaced_words (t : Text) : Spaced (Text.words t) t := by
  obtain ⟨rest, ht, hsolid, hnext, hspaced⟩ := splitWords_spaced t
  have h := spaced_consWord hsolid hnext hspaced
  rwa [← ht] at h

theorem Spaced.isWord (h : Spaced words t) : ∀ word ∈ words, IsWord word := by
  induction h with
  | nil => simp
  | cons _ hword _ _ ih => exact List.forall_mem_cons.mpr ⟨hword, ih⟩

end Text

namespace Numeral

def IsInitial (c : Char) : Prop := c = '-' ∨ c = '+' ∨ (Digit.value? c).isSome = true

theorem run_sound {t : Text} (h : (run true 0 0 t).sound = true) :
    ∃ c r, t = c :: r ∧ (Digit.value? c).isSome = true := by
  cases t with
  | nil => simp [run] at h
  | cons c r =>
    refine ⟨c, r, rfl, ?_⟩
    cases hc : Digit.value? c with
    | some d => rfl
    | none => simp [run, hc] at h

theorem isInitial_of_read {word : Text} {n : Int} (hword : Text.IsWord word)
    (h : read word = .ok n) : ∃ c r, word = c :: r ∧ IsInitial c := by
  obtain ⟨hne, hsolid⟩ := hword
  have hdrop : word.dropWhile isMargin = word := by
    cases word with
    | nil => rfl
    | cons c r => simp [List.dropWhile, isMargin, hsolid c]
  have hsound : (run true 0 0 (sign word).2).sound = true := by
    cases hs : (run true 0 0 (sign word).2).sound with
    | true => rfl
    | false => simp [read, hdrop, hs] at h
  obtain ⟨d, r, hrun, hd⟩ := run_sound hsound
  cases word with
  | nil => exact absurd rfl hne
  | cons c word =>
    refine ⟨c, word, rfl, ?_⟩
    by_cases hminus : c = '-'
    · exact .inl hminus
    by_cases hplus : c = '+'
    · exact .inr (.inl hplus)
    · have hsign : (sign (c :: word)).2 = c :: word := by
        unfold sign
        split <;> simp_all
      obtain ⟨rfl, -⟩ := List.cons.inj (hsign.symm.trans hrun)
      exact .inr (.inr hd)

/-- Whether a text has a letter of the Roman alphabet in front, or nothing at all. -/
def beginsWithLetter : Text → Bool
  | [] => true
  | c :: _ => c.isAlpha

theorem capital_isDigit {c : Char} (h : c.isDigit = true) :
    Case.capital c = [c] ∧ c.isAlpha = false := by
  have hcodes : ∀ n < 10, Case.capital (Char.ofNat (0x30 + n)) = [Char.ofNat (0x30 + n)] ∧
      (Char.ofNat (0x30 + n)).isAlpha = false := by decide
  simp only [Char.isDigit, Bool.and_eq_true, decide_eq_true_eq, UInt32.le_iff_toNat_le] at h
  obtain ⟨hle, hge⟩ : 0x30 ≤ c.toNat ∧ c.toNat ≤ 0x39 := h
  have hc := hcodes (c.toNat - 0x30) (by omega)
  rwa [show 0x30 + (c.toNat - 0x30) = c.toNat by omega, Char.ofNat_toNat] at hc

theorem capital_zeros {c : Char} {start : Nat} (hstart : start ∈ Digit.zeros)
    (hle : start ≤ c.toNat) (hge : c.toNat ≤ start + 9) (hwide : ¬ c.toNat < 0x80) :
    Case.capital c = [c] := by
  have hruns : ∀ start ∈ Digit.zeros, ∀ r ∈ Case.capitalRuns,
      r.last < start ∨ start + 9 < r.first := by
    have h : (Digit.zeros.all fun start => Case.capitalRuns.all fun r =>
        Nat.blt r.last start || Nat.blt (start + 9) r.first) = true := by decide +kernel
    simpa only [List.all_eq_true, Bool.or_eq_true, Nat.blt_eq] using h
  have hlong : ∀ start ∈ Digit.zeros, ∀ entry ∈ Case.longCapitals,
      entry.1 < start ∨ start + 9 < entry.1 := by
    have h : (Digit.zeros.all fun start => Case.longCapitals.all fun entry =>
        Nat.blt entry.1 start || Nat.blt (start + 9) entry.1) = true := by decide +kernel
    simpa only [List.all_eq_true, Bool.or_eq_true, Nat.blt_eq] using h
  have hunlisted : Case.IsUnlisted c.toNat := by
    constructor
    · intro entry hentry
      have hapart := hlong start hstart entry hentry
      omega
    · intro r hr
      have hapart := hruns start hstart r hr
      simp only [Case.Run.holds, Bool.and_eq_false_iff, decide_eq_false_iff_not]
      omega
  exact Case.capital_of_isUnlisted (by omega) hunlisted

theorem isAlpha_eq_false {c : Char} (hwide : ¬ c.toNat < 0x80) : c.isAlpha = false := by
  have hcode : c.val.toNat = c.toNat := rfl
  have hcapital : ('Z' : Char).val.toNat = 90 := rfl
  have hsmall : ('z' : Char).val.toNat = 122 := rfl
  have hdef : c.isAlpha = (decide ('A'.val ≤ c.val ∧ c.val ≤ 'Z'.val) ||
      decide ('a'.val ≤ c.val) && decide (c.val ≤ 'z'.val)) := rfl
  rw [hdef]
  simp only [Bool.or_eq_false_iff, Bool.and_eq_false_iff, decide_eq_false_iff_not,
    UInt32.le_iff_toNat_le]
  omega

theorem capital_digit {c : Char} (h : (Digit.value? c).isSome = true) :
    Case.capital c = [c] ∧ c.isAlpha = false := by
  unfold Digit.value? at h
  split at h
  · split at h
    · exact capital_isDigit ‹_›
    · cases h
  · rename_i hwide
    rw [Option.isSome_map] at h
    obtain ⟨start, hstart⟩ := Option.isSome_iff_exists.mp h
    have hrange := List.find?_some hstart
    simp only [Bool.and_eq_true, decide_eq_true_eq] at hrange
    exact ⟨capital_zeros (List.mem_of_find?_eq_some hstart) hrange.1 hrange.2 hwide,
      isAlpha_eq_false hwide⟩

theorem beginsWithLetter_capital {c : Char} (h : IsInitial c) :
    beginsWithLetter (Case.capital c) = false := by
  rcases h with rfl | rfl | hdigit
  · decide
  · decide
  · obtain ⟨hcapital, hletter⟩ := capital_digit hdigit
    rw [hcapital]
    exact hletter

end Numeral

namespace Word

variable {keywords keywords' : List Text} {word : Text}

theorem isOneOf_mono (h : keywords ⊆ keywords') (hword : isOneOf keywords' word = false) :
    isOneOf keywords word = false := by
  cases hone : isOneOf keywords word with
  | false => rfl
  | true =>
    have hmem : word.upper ∈ keywords := by simpa [isOneOf] using hone
    have hmem' : isOneOf keywords' word = true := by simpa [isOneOf] using h hmem
    simp [hword] at hmem'

theorem isOneOf_numeral {n : Int} (hword : Text.IsWord word) (hread : Numeral.read word = .ok n)
    (h : ∀ k ∈ keywords, Numeral.beginsWithLetter k = true) : isOneOf keywords word = false := by
  obtain ⟨c, r, rfl, hc⟩ := Numeral.isInitial_of_read hword hread
  have hfirst := Numeral.beginsWithLetter_capital hc
  have hupper : Numeral.beginsWithLetter (Text.upper (c :: r)) = false := by
    change Numeral.beginsWithLetter (Case.capital c ++ Text.upper r) = false
    cases hcapital : Case.capital c with
    | nil => simp [hcapital, Numeral.beginsWithLetter] at hfirst
    | cons d rest => rwa [hcapital] at hfirst
  cases hone : isOneOf keywords (c :: r) with
  | false => rfl
  | true =>
    have hmem : Text.upper (c :: r) ∈ keywords := by simpa [isOneOf] using hone
    simp [h _ hmem] at hupper

end Word

namespace Clause

variable {keywords keywords' words front rest content : List Text} {noise word : Text}

/-- Words none of which is one of `keywords`. -/
def Inert (keywords words : List Text) : Prop := ∀ word ∈ words, Word.isOneOf keywords word = false

instance : Decidable (Inert keywords words) :=
  inferInstanceAs (Decidable (∀ word ∈ words, Word.isOneOf keywords word = false))

theorem Inert.append (h : Inert keywords words) (h' : Inert keywords rest) :
    Inert keywords (words ++ rest) := by
  intro word hword
  rcases List.mem_append.mp hword with hword | hword
  · exact h word hword
  · exact h' word hword

theorem Inert.mono (h : Inert keywords' words) (hkeywords : keywords ⊆ keywords') :
    Inert keywords words :=
  fun word hword => Word.isOneOf_mono hkeywords (h word hword)

theorem find?_inert (h : Inert keywords words) : find? keywords words = none := by
  induction words with
  | nil => rfl
  | cons word rest ih =>
    obtain ⟨hword, hrest⟩ := List.forall_mem_cons.mp h
    simp [find?, hword, ih hrest]

theorem find?_inert_append (h : Inert keywords front) (words : List Text) :
    find? keywords (front ++ words) = find? keywords words := by
  induction front with
  | nil => rfl
  | cons word rest ih =>
    obtain ⟨hword, hrest⟩ := List.forall_mem_cons.mp h
    simp [find?, hword, ih hrest]

/-- The words of a clause: one of its keywords in any case, perhaps the noise word, and what the
clause says. -/
inductive Written (keywords : List Text) (noise : Text) (content : List Text) : List Text → Prop
  | plain {keyword : Text} (hkeyword : Word.isOneOf keywords keyword = true) :
      Written keywords noise content (keyword :: content)
  | noisy {keyword filler : Text} (hkeyword : Word.isOneOf keywords keyword = true)
      (hfiller : filler.upper = noise) :
      Written keywords noise content (keyword :: filler :: content)

theorem isOneOf_of_disjoint (hdisjoint : ∀ k ∈ keywords, k ∉ keywords')
    (h : Word.isOneOf keywords word = true) : Word.isOneOf keywords' word = false := by
  simp only [Word.isOneOf, List.contains_eq_mem, decide_eq_true_eq, decide_eq_false_iff_not] at h ⊢
  exact hdisjoint _ h

theorem Written.inert (h : Written keywords noise content words)
    (hkeywords : ∀ k ∈ keywords, k ∉ keywords') (hnoise : noise ∉ keywords')
    (hcontent : Inert keywords' content) : Inert keywords' words := by
  cases h with
  | plain hkeyword =>
    exact List.forall_mem_cons.mpr ⟨isOneOf_of_disjoint hkeywords hkeyword, hcontent⟩
  | noisy hkeyword hfiller =>
    refine List.forall_mem_cons.mpr ⟨isOneOf_of_disjoint hkeywords hkeyword,
      List.forall_mem_cons.mpr ⟨?_, hcontent⟩⟩
    simpa [Word.isOneOf, hfiller] using hnoise

theorem skip_of_ne (h : ∀ word, words.head? = some word → word.upper ≠ noise) :
    skip noise words = words := by
  cases words with
  | nil => rfl
  | cons word rest => simp [skip, h word rfl]

/-- A clause is found by its keyword, and behind the noise word stands what it says. -/
theorem Written.find?_eq (h : Written keywords noise content words) (hsub : keywords ⊆ keywords')
    (hfront : Inert keywords' front) (rest : List Text)
    (hfirst : ∀ word, (content ++ rest).head? = some word → word.upper ≠ noise) :
    ∃ keyword later, Word.isOneOf keywords keyword = true ∧
      find? keywords' (front ++ (words ++ rest)) = some (keyword, later) ∧
      skip noise later = content ++ rest := by
  have hfound : ∀ {keyword : Text} (later : List Text), Word.isOneOf keywords keyword = true →
      find? keywords' (front ++ keyword :: later) = some (keyword, later) := by
    intro keyword later hkeyword
    have hkeyword' : Word.isOneOf keywords' keyword = true := by
      simp only [Word.isOneOf, List.contains_eq_mem, decide_eq_true_eq] at hkeyword ⊢
      exact hsub hkeyword
    rw [find?_inert_append hfront, find?, if_pos hkeyword']
  cases h with
  | @plain keyword hkeyword =>
    exact ⟨keyword, content ++ rest, hkeyword, hfound _ hkeyword, skip_of_ne hfirst⟩
  | @noisy keyword filler hkeyword hfiller =>
    have hskip : skip noise (filler :: (content ++ rest)) = content ++ rest := by
      simp [skip, hfiller]
    exact ⟨keyword, filler :: (content ++ rest), hkeyword, hfound _ hkeyword, hskip⟩

theorem Written.operand_eq (h : Written keywords "IS" [word] words) (hfront : Inert keywords front)
    (hword : word.upper ≠ "IS") (rest : List Text) :
    operand keywords (front ++ (words ++ rest)) = some word := by
  obtain ⟨keyword, later, -, hfind, hskip⟩ := h.find?_eq (List.Subset.refl _) hfront rest
    (by rintro _ ⟨⟩; exact hword)
  rw [operand, hfind, Option.map_some]
  dsimp only
  rw [hskip]
  rfl

theorem operand_inert (h : Inert keywords words) : operand keywords words = none := by
  rw [operand, find?_inert h, Option.map_none]

def usageStarts : List Text := "USAGE" :: Word.usageWords

def reserved : List Text := ["PIC", "PICTURE", "USAGE", "VALUE", "VALUES", "IS", "ARE"]

/-- Words that are neither reserved nor name a format. -/
def IsOperand (word : Text) : Prop := Word.isOneOf (reserved ++ Word.usageWords) word = false

instance : DecidablePred IsOperand := fun word =>
  inferInstanceAs (Decidable (Word.isOneOf (reserved ++ Word.usageWords) word = false))

inductive PictureClause : Option Text → List Text → Prop
  | absent : PictureClause none []
  | given {picture : Text} {words : List Text} (hpicture : IsOperand picture)
      (hwords : Written Word.pictureWords "IS" [picture] words) :
      PictureClause (some picture) words

/-- The words of a clause for a usage: with the word USAGE, or a word that names a format. -/
inductive UsageClause : Option Text → List Text → Prop
  | absent : UsageClause none []
  | bare {usage : Text} (husage : Word.isUsageWord usage = true) : UsageClause (some usage) [usage]
  | given {usage : Text} {words : List Text} (husage : Word.isOneOf reserved usage = false)
      (hwords : Written ["USAGE"] "IS" [usage] words) : UsageClause (some usage) words

inductive ValueClause : Option (List Text) → List Text → Prop
  | absent : ValueClause none []
  | one {values words : List Text} (hvalues : ∀ value ∈ values, IsOperand value)
      (hwords : Written ["VALUE"] "IS" values words) : ValueClause (some values) words
  | several {values words : List Text} (hvalues : ∀ value ∈ values, IsOperand value)
      (hwords : Written ["VALUES"] "ARE" values words) : ValueClause (some values) words

inductive Bared : Text → Text → Prop
  | quoted {quote : Char} (hquote : isQuote quote = true) (inside : Text) :
      Bared (quote :: (inside ++ [quote])) inside
  | plain {t : Text}
      (h : ∀ quote inside, isQuote quote = true → t ≠ quote :: (inside ++ [quote])) : Bared t t

/-- What values come to: a single one loses its quotes, others have single blanks between them. -/
inductive Joined : List Text → Text → Prop
  | single {value bared : Text} (h : Bared value bared) : Joined [value] bared
  | others {values : List Text} (h : values.length ≠ 1) :
      Joined values ([' '].intercalate values)

theorem bared_stripQuotes (t : Text) : Bared t (stripQuotes t) := by
  cases t with
  | nil => exact .plain (by simp)
  | cons quote rest =>
    rw [stripQuotes]
    split
    · rename_i h
      simp only [Bool.and_eq_true, decide_eq_true_eq] at h
      obtain ⟨hquote, hlast⟩ := h
      obtain ⟨inside, rfl⟩ := List.getLast?_eq_some_iff.mp hlast
      rw [List.dropLast_concat]
      exact .quoted hquote inside
    · rename_i h
      refine .plain fun q inside hq heq => h ?_
      obtain ⟨rfl, rfl⟩ := List.cons.inj heq
      simp [hq]

theorem inert_of_isOperand (hkeywords : keywords ⊆ reserved ++ Word.usageWords)
    (h : ∀ word ∈ words, IsOperand word) : Inert keywords words :=
  fun word hword => Word.isOneOf_mono hkeywords (h word hword)

theorem Inert.split (h : Inert (keywords ++ keywords') words) :
    Inert keywords words ∧ Inert keywords' words :=
  ⟨h.mono (List.subset_append_left ..), h.mono (List.subset_append_right ..)⟩

theorem PictureClause.inert {picture : Option Text} (h : PictureClause picture words) :
    Inert usageStarts words ∧ Inert Word.valueWords words := by
  refine Inert.split ?_
  cases h with
  | absent => simp [Inert]
  | given hpicture hwords =>
    exact hwords.inert (by decide) (by decide)
      (inert_of_isOperand (by decide) (by simpa using hpicture))

theorem UsageClause.inert {usage : Option Text} (h : UsageClause usage words) :
    Inert Word.pictureWords words ∧ Inert Word.valueWords words := by
  refine Inert.split ?_
  cases h with
  | absent => simp [Inert]
  | @bare usage husage =>
    have hformat : Word.isOneOf Word.usageWords usage = true := husage
    simpa [Inert] using isOneOf_of_disjoint (by decide) hformat
  | given husage hwords =>
    refine hwords.inert (by decide) (by decide) ?_
    simpa [Inert] using Word.isOneOf_mono (by decide) husage

theorem ValueClause.inert {values : Option (List Text)} (h : ValueClause values words) :
    Inert Word.pictureWords words ∧ Inert usageStarts words := by
  refine Inert.split ?_
  cases h with
  | absent => simp [Inert]
  | one hvalues hwords | several hvalues hwords =>
    exact hwords.inert (by decide) (by decide) (inert_of_isOperand (by decide) hvalues)

theorem PictureClause.picture_eq {picture : Option Text} (h : PictureClause picture words)
    (hfront : Inert Word.pictureWords front) (hrest : Inert Word.pictureWords rest) :
    Clause.picture (front ++ (words ++ rest)) = picture.getD [] := by
  unfold Clause.picture
  cases h with
  | absent =>
    rw [List.nil_append, operand_inert (hfront.append hrest)]
  | @given picture _ hpicture hwords =>
    have hnoise : picture.upper ≠ "IS" := by
      intro his
      simp [IsOperand, Word.isOneOf, his, reserved] at hpicture
    rw [hwords.operand_eq hfront hnoise]

theorem find?_isUsageWord_inert (h : Inert Word.usageWords words) :
    words.find? Word.isUsageWord = none :=
  List.find?_eq_none.mpr fun word hword => by simp [Word.isUsageWord, h word hword]

theorem inert_usageStarts :
    Inert usageStarts words ↔ Inert ["USAGE"] words ∧ Inert Word.usageWords words := by
  simp only [Inert, usageStarts, Word.isOneOf, List.contains_cons, List.contains_nil,
    Bool.or_eq_false_iff, Bool.or_false]
  exact ⟨fun h => ⟨fun word hword => (h word hword).1, fun word hword => (h word hword).2⟩,
    fun h word hword => ⟨h.1 word hword, h.2 word hword⟩⟩

theorem UsageClause.usage_eq {usage : Option Text} (h : UsageClause usage words)
    (hfront : Inert usageStarts front) (hrest : Inert usageStarts rest) :
    Clause.usage (front ++ (words ++ rest)) = usage.getD [] := by
  obtain ⟨hfrontKeyword, hfrontFormat⟩ := inert_usageStarts.mp hfront
  obtain ⟨hrestKeyword, hrestFormat⟩ := inert_usageStarts.mp hrest
  unfold Clause.usage
  cases h with
  | absent =>
    rw [List.nil_append, operand_inert (hfrontKeyword.append hrestKeyword)]
    dsimp only
    rw [find?_isUsageWord_inert (hfrontFormat.append hrestFormat)]
  | @bare usage husage =>
    have hname : Word.isOneOf Word.usageWords usage = true := husage
    have hplain : Inert ["USAGE"] [usage] := by
      intro word hword
      rw [List.mem_singleton.mp hword]
      exact isOneOf_of_disjoint (by decide) hname
    rw [operand_inert (hfrontKeyword.append (hplain.append hrestKeyword))]
    dsimp only
    rw [List.find?_append, find?_isUsageWord_inert hfrontFormat, Option.none_or,
      List.singleton_append, List.find?_cons_of_pos husage]
  | @given usage _ husage hwords =>
    have hnoise : usage.upper ≠ "IS" := by
      intro his
      simp [Word.isOneOf, his, reserved] at husage
    rw [hwords.operand_eq hfrontKeyword hnoise]
    rfl

theorem joined_value (values : List Text) : Joined values (match values with
    | [literal] => stripQuotes literal
    | content => Text.join [' '] content) := by
  split
  · exact .single (bared_stripQuotes _)
  · rename_i h
    rw [Text.join_eq_intercalate]
    refine .others fun hlength => ?_
    obtain ⟨literal, hliteral⟩ := List.length_eq_one_iff.mp hlength
    exact h literal hliteral

theorem Written.value_eq {keyword : Text} {values : List Text}
    (h : Written [keyword] noise values words) (hkeyword : keyword ∈ Word.valueWords)
    (hnoise : noise = if keyword = ("VALUE" : Text) then ("IS" : Text) else "ARE")
    (hvalues : ∀ value ∈ values, IsOperand value) (hfront : Inert Word.valueWords front) :
    Joined values (Clause.value (front ++ words)) := by
  have hreserved : noise ∈ reserved ++ Word.usageWords := by
    rw [hnoise]
    split <;> decide
  have hfirst : ∀ word, (values ++ []).head? = some word → word.upper ≠ noise := by
    intro word hword hupper
    have hmem : word ∈ values := by simpa using List.mem_of_mem_head? hword
    have hoperand := hvalues word hmem
    simp [IsOperand, Word.isOneOf, hupper, List.contains_eq_mem, hreserved] at hoperand
  obtain ⟨found, later, hfound, hfind, hskip⟩ :=
    h.find?_eq (by simpa using hkeyword) hfront [] hfirst
  have hupper : found.upper = keyword := by simpa [Word.isOneOf] using hfound
  rw [List.append_nil] at hfind hskip
  rw [Clause.value, hfind]
  dsimp only
  rw [hupper, ← hnoise, hskip]
  exact joined_value values

theorem ValueClause.value_eq {values : Option (List Text)} (h : ValueClause values words)
    (hfront : Inert Word.valueWords front) :
    Joined (values.getD []) (Clause.value (front ++ words)) := by
  cases h with
  | absent =>
    rw [Clause.value, List.append_nil, find?_inert hfront]
    exact joined_value []
  | one hvalues hwords => exact hwords.value_eq (by decide) (by decide) hvalues hfront
  | several hvalues hwords => exact hwords.value_eq (by decide) (by decide) hvalues hfront

structure Parts where
  level : Text
  name : Text
  picture : Option Text
  usage : Option Text
  values : Option (List Text)

/-- The words of an entry: level and name, picture and usage in either order, then the values. -/
inductive Renders (p : Parts) : List Text → Prop
  | pictureFirst {pictures usages values : List Text} (hpicture : PictureClause p.picture pictures)
      (husage : UsageClause p.usage usages) (hvalues : ValueClause p.values values) :
      Renders p ([p.level, p.name] ++ (pictures ++ (usages ++ values)))
  | usageFirst {pictures usages values : List Text} (hpicture : PictureClause p.picture pictures)
      (husage : UsageClause p.usage usages) (hvalues : ValueClause p.values values) :
      Renders p ([p.level, p.name] ++ (usages ++ (pictures ++ values)))

/-- The clauses that are read from an entry are those that it is made of. -/
structure Reads (p : Parts) (level : Int) (words : List Text) : Prop where
  level : Clause.level words = .ok level
  name : Clause.name words = p.name
  picture : Clause.picture words = p.picture.getD []
  usage : Clause.usage words = p.usage.getD []
  value : Joined (p.values.getD []) (Clause.value words)

theorem inert_start {p : Parts} {level : Int} (hword : Text.IsWord p.level)
    (hlevel : Numeral.read p.level = .ok level) (hname : Word.isNameless p.name = false) :
    Inert Word.pictureWords [p.level, p.name] ∧ Inert usageStarts [p.level, p.name] ∧
      Inert Word.valueWords [p.level, p.name] := by
  have hclause : Word.isOneOf (Word.clauseWords ++ Word.usageWords) p.name = false := by
    simpa [Word.isNameless, Word.isUsageWord, Word.isOneOf] using hname
  have hstart : Inert (Word.pictureWords ++ (usageStarts ++ Word.valueWords))
      [p.level, p.name] := by
    simp only [Inert, List.forall_mem_cons, List.not_mem_nil, false_imp_iff, implies_true,
      and_true]
    exact ⟨Word.isOneOf_numeral hword hlevel (by decide), Word.isOneOf_mono (by decide) hclause⟩
  obtain ⟨hpicture, hlater⟩ := hstart.split
  exact ⟨hpicture, hlater.split⟩

/-- The clauses of an entry are found again, in whatever order and with whatever keywords and blanks
they have been written. -/
theorem reads_of_rendering {p : Parts} {level : Int} {words : List Text} {text : Text}
    (hlevel : Numeral.read p.level = .ok level) (hname : Word.isNameless p.name = false)
    (hwords : Renders p words) (htext : Text.Spaced words text) :
    text.words = words ∧ Reads p level text.words := by
  have hsplit := htext.words_eq
  refine ⟨hsplit, ?_⟩
  rw [hsplit]
  have hmem : p.level ∈ words := by
    cases hwords <;> simp
  obtain ⟨hstartPicture, hstartUsage, hstartValue⟩ :=
    inert_start (htext.isWord _ hmem) hlevel hname
  cases hwords with
  | pictureFirst hpicture husage hvalues =>
    obtain ⟨hpictureUsage, hpictureValue⟩ := hpicture.inert
    obtain ⟨husagePicture, husageValue⟩ := husage.inert
    obtain ⟨hvaluePicture, hvalueUsage⟩ := hvalues.inert
    refine ⟨by simp [Clause.level, hlevel], by simp [Clause.name, hname], ?_, ?_, ?_⟩
    · exact hpicture.picture_eq hstartPicture (husagePicture.append hvaluePicture)
    · rw [← List.append_assoc]
      exact husage.usage_eq (hstartUsage.append hpictureUsage) hvalueUsage
    · rw [← List.append_assoc, ← List.append_assoc]
      exact hvalues.value_eq ((hstartValue.append hpictureValue).append husageValue)
  | usageFirst hpicture husage hvalues =>
    obtain ⟨hpictureUsage, hpictureValue⟩ := hpicture.inert
    obtain ⟨husagePicture, husageValue⟩ := husage.inert
    obtain ⟨hvaluePicture, hvalueUsage⟩ := hvalues.inert
    refine ⟨by simp [Clause.level, hlevel], by simp [Clause.name, hname], ?_, ?_, ?_⟩
    · rw [← List.append_assoc]
      exact hpicture.picture_eq (hstartPicture.append husagePicture) hvaluePicture
    · exact husage.usage_eq hstartUsage (hpictureUsage.append hvalueUsage)
    · rw [← List.append_assoc, ← List.append_assoc]
      exact hvalues.value_eq ((hstartValue.append husageValue).append hpictureValue)

theorem reads_of_rendering_usage_first :
    Reads ⟨"05", "Amount", some "S9(5)V99", some "comp-3", some ["'A'"]⟩ 5
      (Text.words "  05 Amount\tusage Is comp-3  Pic S9(5)V99 Value 'A'\n") := by
  have hsplit : Text.words "  05 Amount\tusage Is comp-3  Pic S9(5)V99 Value 'A'\n" =
      [("05" : Text), "Amount", "usage", "Is", "comp-3", "Pic", "S9(5)V99", "Value", "'A'"] := by
    decide
  have husage : UsageClause (some "comp-3") ["usage", "Is", "comp-3"] :=
    .given (by decide) (.noisy (by decide) (by decide))
  have hpicture : PictureClause (some "S9(5)V99") ["Pic", "S9(5)V99"] :=
    .given (by decide) (.plain (by decide))
  have hvalues : ValueClause (some ["'A'"]) ["Value", "'A'"] :=
    .one (by decide) (.plain (by decide))
  have htext := Text.spaced_words "  05 Amount\tusage Is comp-3  Pic S9(5)V99 Value 'A'\n"
  rw [hsplit] at htext
  exact (reads_of_rendering rfl (by decide) (.usageFirst hpicture husage hvalues) htext).2

end Clause
end Copybook
