import Copybook.Proofs.Clause

/-!
Values and the rest of an entry. The text of the values is split into words like all the rest, and
its quotes do not count. Level and name never depend on it; picture and usage, and with them the
type, do so only if a word of it begins a clause that the entry lacks before its values. -/
namespace Copybook
namespace Clause

variable {keywords earlier content content' : List Text} {keyword : Text}

/-- Texts of values that come to the same clause where none of `keywords` stands before them: both
have none, or the same. -/
def AddAlike (keywords earlier content content' : List Text) : Prop :=
  Inert keywords earlier → operand keywords content = operand keywords content'

instance : Decidable (AddAlike keywords earlier content content') :=
  inferInstanceAs (Decidable (Inert keywords earlier → _))

/-- Texts of values that come to the same usage where none stands before them, with the word USAGE
or by the name of a format. -/
structure AddAlikeUsage (earlier content content' : List Text) : Prop where
  phrase : AddAlike ["USAGE"] earlier content content'
  format : Inert usageStarts earlier →
    content.find? Word.isUsageWord = content'.find? Word.isUsageWord

/-- What a clause says is settled by the words up to a later clause. -/
theorem operand_settled (h : ¬ Inert keywords earlier) (hkeyword : keyword.upper ≠ "IS") :
    ∃ word, ∀ content, operand keywords (earlier ++ keyword :: content) = some word := by
  induction earlier with
  | nil => exact absurd (by simp [Inert]) h
  | cons word earlier ih =>
    cases hword : Word.isOneOf keywords word with
    | false =>
      have hearlier : ¬ Inert keywords earlier :=
        fun hinert => h (List.forall_mem_cons.mpr ⟨hword, hinert⟩)
      obtain ⟨found, hfound⟩ := ih hearlier
      refine ⟨found, fun content => ?_⟩
      rw [List.cons_append, operand, find?, if_neg (by simp [hword])]
      exact hfound content
    | true =>
      have hoperand : ∀ rest, operand keywords (word :: rest) = some ((skip "IS" rest).headD []) :=
        fun rest => by rw [operand, find?, if_pos hword]; rfl
      simp only [List.cons_append, hoperand]
      cases earlier with
      | nil => exact ⟨keyword, fun content => by rw [List.nil_append, skip, if_neg hkeyword]; rfl⟩
      | cons next earlier =>
        by_cases hnext : next.upper = "IS"
        · refine ⟨(earlier ++ [keyword]).headD [], fun content => ?_⟩
          rw [List.cons_append, skip, if_pos hnext]
          cases earlier <;> rfl
        · exact ⟨next, fun content => by rw [List.cons_append, skip, if_neg hnext]; rfl⟩

theorem operand_of_inert (hearlier : Inert keywords earlier)
    (hkeyword : Word.isOneOf keywords keyword = false) (content : List Text) :
    operand keywords (earlier ++ keyword :: content) = operand keywords content := by
  rw [operand, find?_inert_append hearlier, find?, if_neg (by simp [hkeyword])]
  rfl

theorem AddAlike.operand_eq (h : AddAlike keywords earlier content content')
    (hkeyword : Word.isOneOf keywords keyword = false) (hnoise : keyword.upper ≠ "IS") :
    operand keywords (earlier ++ keyword :: content) =
      operand keywords (earlier ++ keyword :: content') := by
  by_cases hearlier : Inert keywords earlier
  · rw [operand_of_inert hearlier hkeyword, operand_of_inert hearlier hkeyword, h hearlier]
  · obtain ⟨word, hword⟩ := operand_settled hearlier hnoise
    rw [hword, hword]

theorem valueWord_upper (hkeyword : Word.isOneOf Word.valueWords keyword = true) :
    keyword.upper ≠ "IS" := by
  intro his
  simp [Word.isOneOf, Word.valueWords, his] at hkeyword

theorem AddAlike.picture_eq (h : AddAlike Word.pictureWords earlier content content')
    (hkeyword : Word.isOneOf Word.valueWords keyword = true) :
    picture (earlier ++ keyword :: content) = picture (earlier ++ keyword :: content') := by
  have hplain : Word.isOneOf Word.pictureWords keyword = false :=
    isOneOf_of_disjoint (by decide) hkeyword
  rw [picture, picture, h.operand_eq hplain (valueWord_upper hkeyword)]

theorem AddAlikeUsage.find?_eq (h : AddAlikeUsage earlier content content')
    (hkeyword : Word.isOneOf usageStarts keyword = false) (husage : Inert ["USAGE"] earlier) :
    (earlier ++ keyword :: content).find? Word.isUsageWord =
      (earlier ++ keyword :: content').find? Word.isUsageWord := by
  rw [List.find?_append, List.find?_append]
  cases hfind : earlier.find? Word.isUsageWord with
  | some word => rw [Option.some_or, Option.some_or]
  | none =>
    have hformat : Inert Word.usageWords earlier := fun word hword => by
      simpa [Word.isUsageWord] using List.find?_eq_none.mp hfind word hword
    have hplain : ¬ Word.isUsageWord keyword = true := by
      simp [Word.isUsageWord, Word.isOneOf_mono (List.subset_cons_self _ _) hkeyword]
    rw [List.find?_cons_of_neg hplain, List.find?_cons_of_neg hplain,
      h.format (inert_usageStarts.mpr ⟨husage, hformat⟩)]

theorem AddAlikeUsage.usage_eq (h : AddAlikeUsage earlier content content')
    (hkeyword : Word.isOneOf Word.valueWords keyword = true) :
    usage (earlier ++ keyword :: content) = usage (earlier ++ keyword :: content') := by
  have hplain : Word.isOneOf usageStarts keyword = false :=
    isOneOf_of_disjoint (by decide) hkeyword
  have hphrase : Word.isOneOf ["USAGE"] keyword = false := Word.isOneOf_mono (by decide) hplain
  have hnoise := valueWord_upper hkeyword
  by_cases husage : Inert ["USAGE"] earlier
  · rw [usage, usage, h.phrase.operand_eq hphrase hnoise, h.find?_eq hplain husage]
  · obtain ⟨word, hword⟩ := operand_settled husage hnoise
    rw [usage, usage, hword, hword]

end Clause

namespace Entry

structure SameType (e e' : Entry) : Prop where
  level : e.level = e'.level
  name : e.name = e'.name
  picture : e.picture = e'.picture
  usagePhrase : e.usagePhrase = e'.usagePhrase
  usage : e.usage = e'.usage
  category : e.category = e'.category
  size : e.size = e'.size
  scale : e.scale = e'.scale

/-- Two readings that fail alike or come to the same name and type. -/
inductive Agree : Except EntryFailure Entry → Except EntryFailure Entry → Prop
  | error (failure : EntryFailure) : Agree (.error failure) (.error failure)
  | ok {e e' : Entry} (h : SameType e e') : Agree (.ok e) (.ok e')

theorem agree_of_clauses {s t : Text}
    (hlevel : Clause.level (Text.words s) = Clause.level (Text.words t))
    (hname : Clause.name (Text.words s) = Clause.name (Text.words t))
    (hpicture : Clause.picture (Text.words s) = Clause.picture (Text.words t))
    (husage : Clause.usage (Text.words s) = Clause.usage (Text.words t)) :
    Agree (read s) (read t) := by
  simp only [read, hlevel, hname, hpicture, husage]
  cases Clause.level (Text.words t) with
  | error flaw => exact .error _
  | ok level =>
    dsimp only
    cases Picture.expand (Clause.picture (Text.words t)) with
    | error failure => exact .error _
    | ok expanded => exact .ok ⟨rfl, rfl, rfl, rfl, rfl, rfl, rfl, rfl⟩

/-- Entries with the same words up to the keyword of their values, such as those that differ only in
the text of literals there, have the same level and name. Their pictures are the same if the values
add the same to what is before them, or nothing, and so are their usages. If both hold, the entries
have the same type. -/
theorem agree_of_addAlike {s t first keyword : Text} {earlier content content' : List Text}
    (hs : Text.words s = (first :: earlier) ++ keyword :: content)
    (ht : Text.words t = (first :: earlier) ++ keyword :: content')
    (hkeyword : Word.isOneOf Word.valueWords keyword = true) :
    Clause.level (Text.words s) = Clause.level (Text.words t) ∧
      Clause.name (Text.words s) = Clause.name (Text.words t) ∧
      (Clause.AddAlike Word.pictureWords (first :: earlier) content content' →
        Clause.picture (Text.words s) = Clause.picture (Text.words t)) ∧
      (Clause.AddAlikeUsage (first :: earlier) content content' →
        Clause.usage (Text.words s) = Clause.usage (Text.words t)) ∧
      (Clause.AddAlike Word.pictureWords (first :: earlier) content content' →
        Clause.AddAlikeUsage (first :: earlier) content content' → Agree (read s) (read t)) := by
  have hlevel : Clause.level (Text.words s) = Clause.level (Text.words t) := by
    rw [hs, ht]
    rfl
  have hname : Clause.name (Text.words s) = Clause.name (Text.words t) := by
    rw [hs, ht]
    cases earlier <;> rfl
  have hpicture (h : Clause.AddAlike Word.pictureWords (first :: earlier) content content') :
      Clause.picture (Text.words s) = Clause.picture (Text.words t) := by
    rw [hs, ht]
    exact h.picture_eq hkeyword
  have husage (h : Clause.AddAlikeUsage (first :: earlier) content content') :
      Clause.usage (Text.words s) = Clause.usage (Text.words t) := by
    rw [hs, ht]
    exact h.usage_eq hkeyword
  exact ⟨hlevel, hname, hpicture, husage,
    fun h h' => agree_of_clauses hlevel hname (hpicture h) (husage h')⟩

theorem agree_with_usage :
    Agree (read "05 A PIC X(20) USAGE DISPLAY VALUE 'IN COMP FORM'")
      (read "05 A PIC X(20) USAGE DISPLAY VALUE 'IN TEST FORM'") := by
  have hs : Text.words "05 A PIC X(20) USAGE DISPLAY VALUE 'IN COMP FORM'" =
      (("05" : Text) :: [("A" : Text), "PIC", "X(20)", "USAGE", "DISPLAY"]) ++
        ("VALUE" : Text) :: [("'IN" : Text), "COMP", "FORM'"] := by decide
  have ht : Text.words "05 A PIC X(20) USAGE DISPLAY VALUE 'IN TEST FORM'" =
      (("05" : Text) :: [("A" : Text), "PIC", "X(20)", "USAGE", "DISPLAY"]) ++
        ("VALUE" : Text) :: [("'IN" : Text), "TEST", "FORM'"] := by decide
  obtain ⟨-, -, -, -, hagree⟩ := agree_of_addAlike hs ht (by decide)
  exact hagree (by decide) ⟨by decide, by decide⟩

/-- Without a usage of its own, an entry takes one from the inside of a literal. -/
theorem usage_of_literal :
    (read ("05 A PIC X(20) VALUE '" ++ "IN COMP FORM" ++ "'")).map usage = .ok "COMP" ∧
      (read ("05 A PIC X(20) VALUE '" ++ "IN TEST FORM" ++ "'")).map usage = .ok "" := by
  constructor <;> rfl

end Entry
end Copybook
