import Copybook.Proofs.Coherence
import Copybook.Proofs.Value

/-!
Usages with and without their keyword. The words that name a format are listed twice, once with the
format and once as words that need no keyword. The lists agree up to two words, so that all other
formats are read alike however they are written, wherever the clause stands in an entry. -/
namespace Copybook

namespace Word

/-- Names of formats that are read only behind the word USAGE. -/
def dependentWords : List Text := ["DISPLAY", "PACKED-DECIMAL"]

/-- The words that need no keyword are those that name a format, but for the dependent ones. -/
theorem isUsageWord_iff (word : Text) : isUsageWord word = true ↔
    (∃ format, Usage.ofWord? word.upper = some format) ∧ word.upper ∉ dependentWords := by
  have hnamed : ∀ w ∈ usageWords, (Usage.ofWord? w).isSome = true ∧ w ∉ dependentWords := by decide
  have hlisted : ∀ entry ∈ Usage.spellings, entry.1 ∈ usageWords ∨ entry.1 ∈ dependentWords := by
    decide
  rw [isUsageWord, isOneOf, List.contains_iff_mem]
  constructor
  · intro hword
    obtain ⟨hformat, hfree⟩ := hnamed _ hword
    exact ⟨Option.isSome_iff_exists.mp hformat, hfree⟩
  · rintro ⟨⟨format, hformat⟩, hfree⟩
    exact (hlisted _ (Usage.mem_spellings hformat)).resolve_right hfree

theorem isOneOf_reserved_of_word {word : Text} {format : Usage}
    (h : Usage.ofWord? word.upper = some format) : isOneOf Clause.reserved word = false := by
  have hplain : ∀ entry ∈ Usage.spellings, Clause.reserved.contains entry.1 = false := by decide
  exact hplain _ (Usage.mem_spellings h)

end Word

namespace Clause

variable {keywords front rest clause clause' words words' : List Text} {noise word : Text}

/-- Words in which a clause that begins there is complete. -/
def Closed (keywords words : List Text) : Prop :=
  ∀ keyword later, find? keywords words = some (keyword, later) → skip "IS" later ≠ []

/-- The words around a clause for the usage: at least the level before it, nothing of another such
clause, and no clause for a picture that is broken off by it. -/
structure Surrounds (front rest : List Text) : Prop where
  level : front ≠ []
  before : Inert usageStarts front
  after : Inert usageStarts rest
  picture : Closed Word.pictureWords front

/-- The ways to write a usage: behind the word USAGE, perhaps with the noise word, or by itself. -/
inductive States (word : Text) : List Text → Prop
  | bare (hword : word.upper ∉ Word.dependentWords) : States word [word]
  | given {words : List Text} (hwords : Written ["USAGE"] "IS" [word] words) : States word words

theorem find?_append (keywords front words : List Text) : find? keywords (front ++ words) =
    ((find? keywords front).map fun found => (found.1, found.2 ++ words)).or
      (find? keywords words) := by
  induction front with
  | nil => rfl
  | cons word front ih =>
    rw [List.cons_append, find?, find?]
    split
    · rfl
    · exact ih

theorem skip_append (h : skip noise words ≠ []) (rest : List Text) :
    skip noise (words ++ rest) = skip noise words ++ rest := by
  cases words with
  | nil => exact absurd rfl h
  | cons word words =>
    rw [List.cons_append, skip, skip]
    split <;> rfl

/-- Behind complete clauses, what follows matters only for the clause that it has itself. -/
theorem Closed.operand_append (h : Closed keywords front)
    (hwords : operand keywords words = operand keywords words') :
    operand keywords (front ++ words) = operand keywords (front ++ words') := by
  unfold operand
  rw [find?_append, find?_append]
  cases hfind : find? keywords front with
  | none => exact hwords
  | some found =>
    obtain ⟨keyword, later⟩ := found
    have hlater : skip "IS" later ≠ [] := h keyword later hfind
    obtain ⟨first, others, hskip⟩ := List.exists_cons_of_ne_nil hlater
    simp only [Option.map_some, Option.some_or, skip_append hlater, hskip, List.cons_append,
      List.headD_cons]

theorem States.usageClause {format : Usage} (h : States word clause)
    (hformat : Usage.ofWord? word.upper = some format) : UsageClause (some word) clause := by
  cases h with
  | bare hword => exact .bare ((Word.isUsageWord_iff word).mpr ⟨⟨format, hformat⟩, hword⟩)
  | given hwords => exact .given (Word.isOneOf_reserved_of_word hformat) hwords

theorem UsageClause.isNameless {usage : Text} (h : UsageClause (some usage) clause) :
    ∃ first others, clause = first :: others ∧ Word.isNameless first = true := by
  cases h with
  | bare husage => exact ⟨usage, [], rfl, by simp [Word.isNameless, husage]⟩
  | given _ hwords =>
    have hkeyword : ∀ {keyword : Text}, Word.isOneOf ["USAGE"] keyword = true →
        Word.isNameless keyword = true := by
      intro keyword h
      have hupper : keyword.upper = "USAGE" := by simpa [Word.isOneOf] using h
      simp [Word.isNameless, Word.isOneOf, Word.clauseWords, hupper]
    cases hwords with
    | plain h => exact ⟨_, _, rfl, hkeyword h⟩
    | noisy h => exact ⟨_, _, rfl, hkeyword h⟩

theorem UsageClause.name_eq {usage : Text} (h : UsageClause (some usage) clause)
    (h' : UsageClause (some usage) clause') (hfront : front ≠ []) :
    name (front ++ (clause ++ rest)) = name (front ++ (clause' ++ rest)) := by
  obtain ⟨level, front, rfl⟩ := List.exists_cons_of_ne_nil hfront
  cases front with
  | nil =>
    obtain ⟨first, others, rfl, hfirst⟩ := h.isNameless
    obtain ⟨first', others', rfl, hfirst'⟩ := h'.isNameless
    simp [name, hfirst, hfirst']
  | cons second front => rfl

theorem UsageClause.picture_append {usage : Text} (h : UsageClause (some usage) clause)
    (h' : UsageClause (some usage) clause') (hfront : Closed Word.pictureWords front) :
    picture (front ++ (clause ++ rest)) = picture (front ++ (clause' ++ rest)) := by
  have hclause : operand Word.pictureWords (clause ++ rest) =
      operand Word.pictureWords (clause' ++ rest) := by
    rw [operand, operand, find?_inert_append h.inert.1, find?_inert_append h'.inert.1]
  rw [picture, picture, hfront.operand_append hclause]

end Clause

namespace Entry

open Clause (Surrounds States)

/-- Two readings that fail alike or come to entries of the same name and type, declared in the same
words, with this usage. -/
inductive AgreeOn (word : Text) (format : Usage) :
    Except EntryFailure Entry → Except EntryFailure Entry → Prop
  | error (failure : EntryFailure) : AgreeOn word format (.error failure) (.error failure)
  | ok {e e' : Entry} (htype : SameType e e') (hdeclared : e.declaredType = e'.declaredType)
      (hphrase : e.usagePhrase = word) (husage : e.usage = format.name) :
      AgreeOn word format (.ok e) (.ok e')

/-- However the usage of an entry is written, it is read alike. -/
theorem agreeOn_of_states {s t word : Text} {format : Usage} {front rest clause clause' : List Text}
    (hformat : Usage.ofWord? word.upper = some format) (haround : Surrounds front rest)
    (hclause : States word clause) (hclause' : States word clause')
    (hs : s.words = front ++ (clause ++ rest)) (ht : t.words = front ++ (clause' ++ rest)) :
    AgreeOn word format (read s) (read t) := by
  have husage := hclause.usageClause hformat
  have husage' := hclause'.usageClause hformat
  have hlevel : Clause.level s.words = Clause.level t.words := by
    obtain ⟨level, front, rfl⟩ := List.exists_cons_of_ne_nil haround.level
    rw [hs, ht]
    rfl
  have hname : Clause.name s.words = Clause.name t.words := by
    rw [hs, ht, husage.name_eq husage' haround.level]
  have hpicture : Clause.picture s.words = Clause.picture t.words := by
    rw [hs, ht, husage.picture_append husage' haround.picture]
  have hphrase : Clause.usage s.words = word := by
    rw [hs, husage.usage_eq haround.before haround.after]
    rfl
  have hphrase' : Clause.usage t.words = word := by
    rw [ht, husage'.usage_eq haround.before haround.after]
    rfl
  have hagree := agree_of_clauses hlevel hname hpicture (hphrase.trans hphrase'.symm)
  generalize hread : read s = outcome at hagree
  generalize read t = outcome' at hagree
  cases hagree with
  | error failure => exact .error failure
  | @ok e e' h =>
    have hword : e.usagePhrase = word := (read_spec hread).2.1.trans hphrase
    have hsolid : ∀ c ∈ word, isBlank c = false := hphrase ▸ Clause.usage_solid s
    have hne : word.isEmpty ≠ true := by
      intro hnil
      rw [List.isEmpty_iff.mp hnil] at hformat
      cases hformat
    refine .ok h ?_ hword ?_
    · rw [declaredType, declaredType, h.picture, h.usagePhrase]
    · rw [usage, hword, if_neg hne, Usage.normalize_of_word hsolid hformat]

theorem agreeOn_of_states_packed :
    AgreeOn "comp-3" .packed (read "05 A PIC IS S9(5)V99 comp-3 VALUE 1")
      (read "05 A PIC IS S9(5)V99 Usage Is comp-3 VALUE 1") := by
  have hs : Text.words "05 A PIC IS S9(5)V99 comp-3 VALUE 1" =
      [("05" : Text), "A", "PIC", "IS", "S9(5)V99"] ++
        ([("comp-3" : Text)] ++ [("VALUE" : Text), "1"]) := by decide
  have ht : Text.words "05 A PIC IS S9(5)V99 Usage Is comp-3 VALUE 1" =
      [("05" : Text), "A", "PIC", "IS", "S9(5)V99"] ++
        ([("Usage" : Text), "Is", "comp-3"] ++ [("VALUE" : Text), "1"]) := by decide
  have hclosed : Clause.Closed Word.pictureWords [("05" : Text), "A", "PIC", "IS", "S9(5)V99"] := by
    rintro keyword later ⟨⟩
    decide
  exact agreeOn_of_states (by decide) ⟨by decide, by decide, by decide, hclosed⟩
    (.bare (by decide)) (.given (.noisy (by decide) (by decide))) hs ht

/-- The dependent words count for nothing by themselves, and another word USAGE, here in a literal,
wins over a format without it. -/
theorem usage_without_keyword :
    ((read "05 A PIC 9(5) DISPLAY").map usage = .ok "" ∧
        (read "05 A PIC 9(5) USAGE DISPLAY").map usage = .ok "DISPLAY") ∧
      ((read "05 A PIC 9(5) PACKED-DECIMAL").map usage = .ok "" ∧
        (read "05 A PIC 9(5) USAGE PACKED-DECIMAL").map usage = .ok "COMP-3") ∧
      (read "05 A PIC 9(5) COMP VALUE 'NO USAGE YET'").map usage = .ok "YET'" ∧
        (read "05 A PIC 9(5) USAGE COMP VALUE 'NO USAGE YET'").map usage = .ok "COMP" :=
  ⟨⟨rfl, rfl⟩, ⟨rfl, rfl⟩, rfl, rfl⟩

end Entry
end Copybook
