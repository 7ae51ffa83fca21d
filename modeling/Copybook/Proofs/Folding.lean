import Copybook.Entry
import Copybook.Proofs.Capitals
import Copybook.Proofs.Result

/-!
Letter case. A text is folded by writing its ASCII letters as capitals. Folding the text of an entry
folds whatever is kept of the text and changes nothing else, so texts that differ only in the case of
such letters are read alike. -/
namespace Copybook

theorem toUpper_of_wide {c : Char} (h : 0x80 ≤ c.toNat) : c.toUpper = c := by
  have hletter : ¬ (c.val ≥ 'a'.val ∧ c.val ≤ 'z'.val) := by
    rintro ⟨-, hlast⟩
    have hcode : c.toNat ≤ 'z'.toNat := hlast
    exact absurd h (Nat.not_le.mpr (Nat.lt_of_le_of_lt hcode (by decide)))
  exact dif_neg hletter

theorem forall_toUpper {P : Char → Char → Prop}
    (hcodes : ∀ n < 0x80, P (Char.ofNat n) (Char.ofNat n).toUpper) (hself : ∀ c, P c c) (c : Char) :
    P c c.toUpper := by
  by_cases hascii : c.toNat < 0x80
  · exact Case.forall_ascii (P := fun c => P c c.toUpper) hcodes c hascii
  · rw [toUpper_of_wide (Nat.not_lt.mp hascii)]
    exact hself c

theorem apply_toUpper {α : Type} {f : Char → α}
    (h : ∀ n < 0x80, f (Char.ofNat n).toUpper = f (Char.ofNat n)) (c : Char) : f c.toUpper = f c :=
  forall_toUpper (P := fun c d => f d = f c) h (fun _ => rfl) c

theorem toUpper_cases (c : Char) :
    c.toUpper = c ∨ c.isAlpha = true ∧ c.toUpper.isAlpha = true :=
  forall_toUpper (P := fun c d => d = c ∨ c.isAlpha = true ∧ d.isAlpha = true)
    (by decide) (fun _ => .inl rfl) c

theorem toUpper_eq_iff {mark : Char} (h : mark.isAlpha = false) (c : Char) :
    c.toUpper = mark ↔ c = mark := by
  rcases toUpper_cases c with hself | ⟨hletter, hcapital⟩
  · rw [hself]
  · constructor
    · rintro rfl
      rw [h] at hcapital
      cases hcapital
    · rintro rfl
      rw [h] at hletter
      cases hletter

theorem isBlank_toUpper (c : Char) : isBlank c.toUpper = isBlank c :=
  apply_toUpper (by decide) c

theorem isDigitLike_toUpper (c : Char) : isDigitLike c.toUpper = isDigitLike c :=
  apply_toUpper (by decide) c

theorem toUpper_of_isDigitLike {c : Char} (h : isDigitLike c = true) : c.toUpper = c :=
  forall_toUpper (P := fun c d => isDigitLike c = true → d = c) (by decide)
    (fun _ _ => rfl) c h

namespace Text

/-- A text with its ASCII letters as capitals. -/
def folded (t : Text) : Text := t.map Char.toUpper

variable (s t : Text)

@[simp] theorem folded_nil : folded [] = [] := rfl

@[simp] theorem folded_cons (c : Char) : folded (c :: t) = c.toUpper :: folded t := rfl

@[simp] theorem folded_append : folded (s ++ t) = folded s ++ folded t := List.map_append

@[simp] theorem length_folded : (folded t).length = t.length := List.length_map _

@[simp] theorem isEmpty_folded : (folded t).isEmpty = t.isEmpty := by cases t <;> rfl

@[simp] theorem folded_reverse : folded t.reverse = (folded t).reverse := List.map_reverse

@[simp] theorem upper_folded : (folded t).upper = t.upper := by
  rw [folded, upper, List.flatMap_map]
  exact congrArg (List.flatMap · t) (funext (apply_toUpper (by decide)))

theorem folded_of_digits (h : t.all isDigitLike = true) : folded t = t := by
  rw [List.all_eq_true] at h
  exact (List.map_congr_left fun c hc => toUpper_of_isDigitLike (h c hc)).trans (List.map_id t)

section

variable {p : Char → Bool} (hp : ∀ c, p c.toUpper = p c)
include hp

theorem dropWhile_folded : (folded t).dropWhile p = folded (t.dropWhile p) := by
  have hcomp : p ∘ Char.toUpper = p := funext hp
  rw [folded, List.dropWhile_map, hcomp]
  rfl

theorem all_folded : (folded t).all p = t.all p := by
  have hcomp : p ∘ Char.toUpper = p := funext hp
  rw [folded, List.all_map, hcomp]

end

@[simp] theorem trim_folded : (folded t).trim = folded t.trim := by
  have hdrop : ∀ u : Text, (folded u).dropWhile isBlank = folded (u.dropWhile isBlank) :=
    fun u => u.dropWhile_folded isBlank_toUpper
  rw [trim, trimStart, hdrop, trimEnd, dropEndWhile, ← folded_reverse, hdrop, ← folded_reverse]
  rfl

theorem consWord_folded (word : Text) (words : List Text) :
    consWord (folded word) (words.map folded) = (consWord word words).map folded := by
  cases word <;> rfl

theorem splitWords_folded :
    splitWords (folded t) = ((splitWords t).1.folded, (splitWords t).2.map folded) := by
  induction t with
  | nil => rfl
  | cons c r ih =>
    rw [folded_cons, splitWords, splitWords, ih, isBlank_toUpper]
    split
    · rw [consWord_folded, folded_nil]
    · rfl

@[simp] theorem words_folded : words (folded t) = (words t).map folded := by
  rw [words, splitWords_folded, consWord_folded, words]

theorem folded_join (separator : Text) (parts : List Text) :
    folded (join separator parts) = join separator.folded (parts.map folded) := by
  induction parts with
  | nil => rfl
  | cons first parts ih =>
    cases parts with
    | nil => rfl
    | cons next others =>
      rw [join, folded_append, folded_append, ih]
      rfl

theorem repeated_folded (n : Nat) : repeated n (folded t) = folded (repeated n t) := by
  rw [repeated, repeated, folded, folded, List.map_flatten, List.map_replicate]

end Text

namespace Numeral

variable (t : Text)

def Problem.folded : Problem → Problem
  | .malformed text => .malformed text.folded
  | .tooLong digits => .tooLong digits
  | .tooLongToWrite => .tooLongToWrite

def Run.folded (number : Run) : Run := { number with rest := number.rest.folded }

theorem isMargin_toUpper (c : Char) : isMargin c.toUpper = isMargin c :=
  apply_toUpper (by decide) c

theorem sign_folded : sign t.folded = ((sign t).1, (sign t).2.folded) := by
  have hminus : ∀ c : Char, c.toUpper = '-' ↔ c = '-' := toUpper_eq_iff rfl
  have hplus : ∀ c : Char, c.toUpper = '+' ↔ c = '+' := toUpper_eq_iff rfl
  unfold sign
  cases t with
  | nil => rfl
  | cons c r =>
    rw [Text.folded_cons]
    split <;> split <;> simp_all

theorem run_folded (joined : Bool) (digits value : Nat) :
    run joined digits value t.folded = (run joined digits value t).folded := by
  have hvalue : ∀ c : Char, Digit.value? c.toUpper = Digit.value? c :=
    apply_toUpper (by decide)
  have hunderscore : ∀ c : Char, c.toUpper = '_' ↔ c = '_' := toUpper_eq_iff rfl
  induction t generalizing joined digits value with
  | nil => rfl
  | cons c r ih =>
    rw [Text.folded_cons, run, run, hvalue]
    cases Digit.value? c with
    | some d => exact ih _ _ _
    | none =>
      simp only [hunderscore]
      split
      · exact ih _ _ _
      · rfl

theorem read_folded : read t.folded = (read t).mapError Problem.folded := by
  rw [read, read, t.dropWhile_folded isMargin_toUpper, sign_folded]
  dsimp only
  rw [run_folded, Run.folded, Text.all_folded _ isMargin_toUpper]
  dsimp only
  split_ifs <;> rfl

end Numeral

def Flaw.folded : Flaw → Flaw
  | .emptyEntry => .emptyEntry
  | .badLevel word => .badLevel word.folded
  | .noSymbol picture => .noSymbol picture.folded
  | .unclosedCount picture => .unclosedCount picture.folded
  | .badCount picture count => .badCount picture.folded count.folded
  | .orphanCondition name => .orphanCondition name.folded

def EntryFailure.folded : EntryFailure → EntryFailure
  | .malformed flaw => .malformed flaw.folded
  | .numeral problem => .numeral problem
  | .repetition fault => .repetition fault

namespace Picture

variable (picture block count : Text)

def Place.folded : Place → Place
  | .start => .start
  | .after block => .after block.folded
  | .inside block count => .inside block.folded count.folded

theorem readCount_folded :
    readCount picture.folded count.folded = (readCount picture count).mapError EntryFailure.folded := by
  rw [readCount, readCount, Text.isEmpty_folded, count.all_folded isDigitLike_toUpper]
  split
  · rfl
  · rename_i hdigits
    rw [count.folded_of_digits (by simp_all)]
    cases Numeral.read count <;> rfl

theorem repeatBlock_folded (n : Nat) :
    repeatBlock block.folded n = (repeatBlock block n).map Text.folded := by
  rw [repeatBlock, repeatBlock, Text.length_folded, Text.repeated_folded]
  split_ifs <;> rfl

theorem repeatAs_folded : repeatAs picture.folded block.folded count.folded =
    ((repeatAs picture block count).map Text.folded).mapError EntryFailure.folded := by
  rw [repeatAs, repeatAs, Text.trim_folded, readCount_folded]
  cases readCount picture count.trim with
  | error failure => rfl
  | ok n =>
    rw [mapError_ok]
    dsimp only
    rw [repeatBlock_folded]
    cases repeatBlock block n <;> rfl

theorem expandFrom_folded (place : Place) (rest : Text) :
    expandFrom picture.folded place.folded rest.folded =
      ((expandFrom picture place rest).map Text.folded).mapError EntryFailure.folded := by
  have hopen : ∀ c : Char, c.toUpper = '(' ↔ c = '(' := toUpper_eq_iff rfl
  have hclose : ∀ c : Char, c.toUpper = ')' ↔ c = ')' := toUpper_eq_iff rfl
  -- By induction on what is left of the picture, from every place that can be reached in it.
  induction rest generalizing place with
  | nil => cases place <;> rfl
  | cons c r ih =>
    cases place with
    | start =>
      simp only [Place.folded, Text.folded_cons, expandFrom, hopen]
      split
      · rfl
      · exact ih (.after [c])
    | after block =>
      simp only [Place.folded, Text.folded_cons, expandFrom, hopen]
      split
      · exact ih (.inside block [])
      · have hrest := ih (.after [c])
        dsimp only [Place.folded, Text.folded_cons, Text.folded_nil] at hrest
        rw [hrest]
        cases expandFrom picture (.after [c]) r with
        | error failure => rfl
        | ok text => exact congrArg Except.ok (Text.folded_append block text).symm
    | inside block count =>
      simp only [Place.folded, Text.folded_cons, expandFrom, hclose]
      split
      · rw [← Text.folded_reverse, repeatAs_folded]
        cases repeatAs picture block count.reverse with
        | error failure => rfl
        | ok text => exact ih (.after text)
      · exact ih (.inside block (c :: count))

theorem expand_folded : expand picture.folded =
    ((expand picture).map Text.folded).mapError EntryFailure.folded :=
  expandFrom_folded picture .start picture

end Picture

namespace Clause

variable (keywords words : List Text)

@[simp] theorem isOneOf_folded (word : Text) :
    Word.isOneOf keywords word.folded = Word.isOneOf keywords word := by
  rw [Word.isOneOf, Word.isOneOf, Text.upper_folded]

theorem find?_folded : find? keywords (words.map Text.folded) =
    (find? keywords words).map (Prod.map Text.folded (List.map Text.folded)) := by
  induction words with
  | nil => rfl
  | cons word words ih =>
    rw [List.map_cons, find?, find?, isOneOf_folded]
    split
    · rfl
    · exact ih

theorem skip_folded (noise : Text) :
    skip noise (words.map Text.folded) = (skip noise words).map Text.folded := by
  cases words with
  | nil => rfl
  | cons word words =>
    rw [List.map_cons, skip, skip, Text.upper_folded]
    split <;> rfl

theorem operand_folded : operand keywords (words.map Text.folded) =
    (operand keywords words).map Text.folded := by
  rw [operand, operand, find?_folded]
  cases find? keywords words with
  | none => rfl
  | some found =>
    obtain ⟨keyword, rest⟩ := found
    simp only [Option.map_some, Prod.map, skip_folded]
    cases skip "IS" rest <;> rfl

theorem level_folded : level (words.map Text.folded) = (level words).mapError Flaw.folded := by
  cases words with
  | nil => rfl
  | cons word words =>
    rw [List.map_cons, level, level, Numeral.read_folded]
    cases Numeral.read word <;> rfl

theorem name_folded : name (words.map Text.folded) = (name words).folded := by
  match words with
  | [] => rfl
  | [_] => rfl
  | _ :: word :: _ =>
    rw [List.map_cons, List.map_cons, name, name, Word.isNameless, Word.isNameless, Word.isUsageWord,
      Word.isUsageWord, isOneOf_folded, isOneOf_folded]
    split <;> rfl

theorem picture_folded : picture (words.map Text.folded) = (picture words).folded := by
  rw [picture, picture, operand_folded]
  cases operand Word.pictureWords words <;> rfl

theorem usage_folded : usage (words.map Text.folded) = (usage words).folded := by
  have hword : Word.isUsageWord ∘ Text.folded = Word.isUsageWord :=
    funext fun word => isOneOf_folded _ word
  rw [usage, usage, operand_folded, List.find?_map, hword]
  cases operand ["USAGE"] words with
  | some word => rfl
  | none => cases words.find? Word.isUsageWord <;> rfl

theorem getLast?_folded {q : Char} (hq : isQuote q = true) (t : Text) :
    t.folded.getLast? = some q.toUpper ↔ t.getLast? = some q := by
  have hsingle : ∀ c : Char, c.toUpper = '\'' ↔ c = '\'' := toUpper_eq_iff rfl
  have hdouble : ∀ c : Char, c.toUpper = '"' ↔ c = '"' := toUpper_eq_iff rfl
  have hmark : ∀ c : Char, c.toUpper = q.toUpper ↔ c = q := by
    simp only [isQuote, Bool.or_eq_true, decide_eq_true_eq] at hq
    rcases hq with rfl | rfl
    · exact hsingle
    · exact hdouble
  rw [Text.folded, List.getLast?_map]
  cases t.getLast? with
  | none => simp
  | some c => simp [hmark]

theorem stripQuotes_folded (literal : Text) :
    stripQuotes literal.folded = (stripQuotes literal).folded := by
  have hquote : ∀ c : Char, isQuote c.toUpper = isQuote c := apply_toUpper (by decide)
  cases literal with
  | nil => rfl
  | cons q rest =>
    rw [Text.folded_cons, stripQuotes, stripQuotes, hquote]
    cases hq : isQuote q with
    | false => rfl
    | true =>
      simp only [getLast?_folded hq]
      split
      · exact List.map_dropLast.symm
      · rfl

theorem value_folded : value (words.map Text.folded) = (value words).folded := by
  rw [value, value, find?_folded]
  cases find? Word.valueWords words with
  | none => rfl
  | some found =>
    obtain ⟨keyword, rest⟩ := found
    simp only [Option.map_some, Prod.map, skip_folded, Text.upper_folded]
    generalize skip _ rest = content
    match content with
    | [] => rfl
    | [literal] => exact stripQuotes_folded literal
    | first :: second :: others => exact (Text.folded_join [' '] (first :: second :: others)).symm

end Clause

namespace Extent

theorem classify_folded (expanded phrase : Text) (declared : Bool) :
    classify expanded phrase.folded declared = classify expanded phrase declared := by
  have hsingle : Usage.isSingle phrase.folded = Usage.isSingle phrase := by
    rw [Usage.isSingle, Usage.isSingle, Text.upper_folded]
  have hdouble : Usage.isDouble phrase.folded = Usage.isDouble phrase := by
    rw [Usage.isDouble, Usage.isDouble, Text.upper_folded]
  rw [classify, classify, hsingle, hdouble]

end Extent

namespace Entry

variable (e : Entry)

/-- An entry with what it keeps of its text in capitals. -/
def folded (e : Entry) : Entry :=
  { e with name := e.name.folded, picture := e.picture.folded, usagePhrase := e.usagePhrase.folded,
           value := e.value.folded }

theorem extent_folded : e.folded.extent = e.extent := by
  simp only [extent, folded, Text.isEmpty_folded, Extent.classify_folded]

theorem usage_folded : e.folded.usage = e.usage := by
  simp only [usage, folded, Text.isEmpty_folded, Usage.normalize, Text.trim_folded, Text.upper_folded]

theorem declaredType_folded : e.folded.declaredType = e.declaredType.folded := by
  have hempty : (fun part : Text => !part.isEmpty) ∘ Text.folded = fun part => !part.isEmpty :=
    funext fun part => congrArg not part.isEmpty_folded
  have hparts : [e.folded.picture, e.folded.usagePhrase] =
      [e.picture, e.usagePhrase].map Text.folded := rfl
  rw [declaredType, declaredType, Text.folded_join, hparts, List.filter_map, hempty]
  rfl

theorem typeName_folded : e.folded.typeName = e.typeName.folded := by
  have hcategory : e.folded.category = e.category := congrArg Extent.category e.extent_folded
  have hname : ∀ c : Category, c.name.folded = c.name := by
    intro c
    cases c <;> decide
  have hword : Text.folded " USAGE " = " USAGE " := by decide
  have hphrase : e.folded.usagePhrase.isEmpty = e.usagePhrase.isEmpty :=
    Text.isEmpty_folded e.usagePhrase
  unfold typeName
  rw [hcategory]
  split
  · rfl
  · rw [Text.folded_append, Text.folded_append, Text.folded_append, hname, hphrase]
    split
    · rfl
    · rw [Text.folded_append, hword]
      rfl
  · exact (hname _).symm

/-- Folding a text and reading it comes to the same as reading it and folding what is kept. -/
theorem read_folded (text : Text) :
    read text.folded = ((read text).map folded).mapError EntryFailure.folded := by
  rw [read, read]
  simp only [Text.words_folded, Clause.level_folded, Clause.picture_folded, Clause.name_folded,
    Clause.usage_folded, Clause.value_folded, Picture.expand_folded]
  cases Clause.level text.words with
  | error flaw => rfl
  | ok level =>
    cases Picture.expand (Clause.picture text.words) with
    | error failure => rfl
    | ok expanded =>
      dsimp only [Except.map, Except.mapError]
      rw [Text.upper_folded]
      rfl

/-- What entries have in common that differ in the case of ASCII letters only. -/
structure AgreesUpToCase (e other : Entry) : Prop where
  level : e.level = other.level
  usage : e.usage = other.usage
  category : e.category = other.category
  size : e.size = other.size
  scale : e.scale = other.scale
  name : e.name.folded = other.name.folded
  picture : e.picture.folded = other.picture.folded
  usagePhrase : e.usagePhrase.folded = other.usagePhrase.folded
  declaredType : e.declaredType.folded = other.declaredType.folded
  value : e.value.folded = other.value.folded
  typeName : e.typeName.folded = other.typeName.folded

/-- Results of reading that are the same but for the case of ASCII letters: failures are of one kind,
and say the same. -/
inductive ReadAlike : Except EntryFailure Entry → Except EntryFailure Entry → Prop
  | entry {e other : Entry} (h : e.AgreesUpToCase other) : ReadAlike (.ok e) (.ok other)
  | malformed {flaw other : Flaw} (h : flaw.folded = other.folded) :
      ReadAlike (.error (.malformed flaw)) (.error (.malformed other))
  | numeral (problem : Numeral.Problem) :
      ReadAlike (.error (.numeral problem)) (.error (.numeral problem))
  | repetition (fault : RepetitionFault) :
      ReadAlike (.error (.repetition fault)) (.error (.repetition fault))

theorem agreesUpToCase {e other : Entry} (h : e.folded = other.folded) : e.AgreesUpToCase other := by
  have hextent : e.extent = other.extent := by rw [← e.extent_folded, h, other.extent_folded]
  have husage : e.usage = other.usage := by rw [← e.usage_folded, h, other.usage_folded]
  have hdeclared : e.declaredType.folded = other.declaredType.folded := by
    rw [← e.declaredType_folded, h, other.declaredType_folded]
  have htype : e.typeName.folded = other.typeName.folded := by
    rw [← e.typeName_folded, h, other.typeName_folded]
  have hparts := Entry.mk.inj h
  exact ⟨hparts.1, husage, congrArg Extent.category hextent, congrArg Extent.size hextent,
    congrArg Extent.scale hextent, hparts.2.1, hparts.2.2.1, hparts.2.2.2.1, hdeclared,
    hparts.2.2.2.2.1, htype⟩

theorem readAlike_error {failure other : EntryFailure} (h : failure.folded = other.folded) :
    ReadAlike (.error failure) (.error other) := by
  cases failure with
  | malformed flaw =>
    cases other with
    | malformed other => exact .malformed (EntryFailure.malformed.inj h)
    | numeral _ => cases h
    | repetition _ => cases h
  | numeral problem =>
    cases other with
    | malformed _ => cases h
    | numeral _ =>
      cases h
      exact .numeral problem
    | repetition _ => cases h
  | repetition fault =>
    cases other with
    | malformed _ => cases h
    | numeral _ => cases h
    | repetition _ =>
      cases h
      exact .repetition fault

/-- Texts that differ only in the case of ASCII letters are read alike. -/
theorem read_alike {s t : Text} (h : s.folded = t.folded) : ReadAlike (read s) (read t) := by
  have hread : ((read s).map folded).mapError EntryFailure.folded =
      ((read t).map folded).mapError EntryFailure.folded := by
    rw [← read_folded, h, read_folded]
  generalize read s = left at hread
  generalize read t = right at hread
  match left, right with
  | .ok e, .ok other => exact .entry (agreesUpToCase (Except.ok.inj hread))
  | .error failure, .error other => exact readAlike_error (Except.error.inj hread)
  | .ok _, .error _ => cases hread
  | .error _, .ok _ => cases hread

/-- A signed total in small letters and one in capitals. -/
theorem read_alike_total :
    Text.folded "05 total pic s9(3)v99 comp-3" = Text.folded "05 Total PIC S9(3)V99 Comp-3" ∧
      ∃ e other, read "05 total pic s9(3)v99 comp-3" = .ok e ∧
        read "05 Total PIC S9(3)V99 Comp-3" = .ok other ∧ e.AgreesUpToCase other := by
  have hfolded : Text.folded "05 total pic s9(3)v99 comp-3" =
      Text.folded "05 Total PIC S9(3)V99 Comp-3" := by decide
  have halike := read_alike hfolded
  have hread : read "05 total pic s9(3)v99 comp-3" =
      .ok ⟨5, "total", "s9(3)v99", "comp-3", [], "S999V99"⟩ := by decide +kernel
  rw [hread] at halike
  generalize hright : read "05 Total PIC S9(3)V99 Comp-3" = right at halike
  cases halike with
  | entry h => exact ⟨hfolded, _, _, hread, rfl, h⟩

end Entry

end Copybook
