import Copybook.Proofs.Segmentation
import Mathlib.Data.List.Basic

/-!
Literals over several lines. A continuation line that begins with a quote loses it when the part that
it is added to ends inside a literal. That the whole sentence ends inside a literal is the same, unless
an ordinary line has begun inside one: then the part is read from the wrong state, and it depends on
where its quotes stand whether both readings end alike. -/
namespace Copybook
namespace Sentence

open Layout (bare grown IsFiller)
open Literal (Closed Open)

def EndsInside (t : Text) : Prop := ∃ quote, Open quote t

theorem endsInside_iff {t : Text} : EndsInside t ↔ ¬ Closed t := by
  rw [← Literal.openQuote_eq_none_iff, EndsInside]
  simp only [← Literal.openQuote_eq_some_iff]
  cases openQuote none t <;> simp

instance (t : Text) : Decidable (EndsInside t) := decidable_of_iff _ endsInside_iff.symm

/-- Parts that end inside a literal when they are read by themselves but not when they begin inside a
literal with the given quote, or the other way round. -/
inductive Misread (quote : Char) : Text → Prop
  /-- The literal goes on through the whole part, which has only literals of its own that end. -/
  | through {part : Text} (hquote : quote ∉ part) (hclosed : Closed part) : Misread quote part
  /-- The literal ends in the part, and its quote makes a difference to what follows. -/
  | shifted {inside rest : Text} (hquote : quote ∉ inside)
      (hrest : Closed rest ↔ ¬ Closed (inside ++ quote :: rest)) :
      Misread quote (inside ++ quote :: rest)

theorem hasOpenLiteral_iff {t : Text} : hasOpenLiteral t = true ↔ EndsInside t := by
  rw [endsInside_iff, ← Literal.openQuote_eq_none_iff, hasOpenLiteral]
  cases openQuote none t <;> simp

theorem openQuote_behind {quote : Char} {inside : Text} (h : quote ∉ inside) (rest : Text) :
    openQuote (some quote) (inside ++ quote :: rest) = openQuote none rest := by
  rw [Literal.openQuote_append, Literal.openQuote_inside h]
  simp [openQuote]

theorem misread_iff {quote : Char} {part : Text} :
    Misread quote part ↔ (openQuote (some quote) part = none ↔ ¬ openQuote none part = none) := by
  simp only [Literal.openQuote_eq_none_iff]
  constructor
  · intro h
    cases h with
    | through hquote hclosed => simp [Literal.openQuote_inside hquote, hclosed]
    | shifted hquote hrest =>
      rw [openQuote_behind hquote, Literal.openQuote_eq_none_iff]
      exact hrest
  · intro h
    by_cases hquote : quote ∈ part
    · obtain ⟨inside, rest, rfl, hinside⟩ := List.eq_append_cons_of_mem hquote
      rw [openQuote_behind hinside, Literal.openQuote_eq_none_iff] at h
      exact .shifted hinside h
    · rw [Literal.openQuote_inside hquote] at h
      exact .through hquote (by simpa using h)

namespace Draft

def before (d : Draft) : Text := Text.join [' '] d.earlier.reverse

/-- The last part goes on from the state in which the parts before it end. -/
theorem openQuote_joined (d : Draft) :
    openQuote none d.joined = openQuote (openQuote none d.before) d.last := by
  unfold joined before
  rw [List.reverse_cons]
  cases hparts : d.earlier.reverse.reverse with
  | nil =>
    rw [List.reverse_eq_nil_iff.mp hparts]
    rfl
  | cons part parts =>
    rw [List.reverse_eq_cons_iff.mp hparts, Text.join_concat, Literal.openQuote_append,
      Literal.openQuote_append]
    congr 1
    -- the blank between two parts is no quote
    cases hopen : openQuote none (Text.join [' '] (parts.reverse ++ [part])) with
    | none => rfl
    | some quote =>
      obtain ⟨_, _, _, hquote, _, _⟩ := Literal.openQuote_eq_some_iff.mp hopen
      have hblank : ' ' ≠ quote := by
        rintro rfl
        exact absurd hquote (by decide)
      simp [openQuote, hblank]

theorem endsInside_joined (d : Draft) : (EndsInside d.last ↔ EndsInside d.joined) ↔
    ∀ quote, Open quote d.before → ¬ Misread quote d.last := by
  simp only [endsInside_iff, ← Literal.openQuote_eq_none_iff, ← Literal.openQuote_eq_some_iff,
    misread_iff, openQuote_joined]
  cases openQuote none d.before with
  | none => simp
  | some quote =>
    simp only [Option.some.injEq, forall_eq']
    tauto

theorem joined_append_last (d : Draft) (more : Text) :
    (⟨d.line, d.last ++ more, d.earlier⟩ : Draft).joined = d.joined ++ more := by
  unfold joined
  rw [List.reverse_cons, List.reverse_cons]
  exact Text.join_append_last [' '] d.last more d.earlier.reverse

end Draft

/-- A continuation line that begins with a quote, and the sentence that it continues. -/
structure Reopening (front : List Text) (line : Text) where
  draft : Draft
  quote : Char
  rest : Text
  /-- The sentence is under construction behind the lines before. -/
  pending : Draft.after none (Card.numbered 1 front) = some draft
  speaks : ¬ IsFiller line
  continues : (bare line)[6]? = some '-'
  code : Text.trim (((bare line).drop 7).take 65) = quote :: rest
  isQuote : Clause.isQuote quote = true

namespace Reopening

variable {front : List Text} {line : Text}

def card (_ : Reopening front line) : Card := ⟨bare line, front.length + 1⟩

def Drops (r : Reopening front line) : Prop :=
  (r.draft.extend r.card).joined = r.draft.joined ++ r.rest

theorem joined_extend (r : Reopening front line) : (r.draft.extend r.card).joined =
    r.draft.joined ++ if EndsInside r.draft.last then r.rest else r.quote :: r.rest := by
  have hcontinuation : r.card.isContinuation = true := by
    rw [Card.isContinuation, decide_eq_true_eq, Card.kind_eq_continuation_iff]
    exact r.continues
  have hfragment : Draft.fragment r.draft.last r.card.code =
      if EndsInside r.draft.last then r.rest else r.quote :: r.rest := by
    have hcode : r.card.code.trim = r.quote :: r.rest := r.code
    rw [Draft.fragment, hcode]
    dsimp only
    rw [r.isQuote, Bool.and_true]
    exact if_congr hasOpenLiteral_iff rfl rfl
  rw [Draft.extend, if_pos hcontinuation, hfragment, Draft.joined_append_last]

theorem drops_iff (r : Reopening front line) : r.Drops ↔ EndsInside r.draft.last := by
  rw [Drops, joined_extend, List.append_cancel_left_eq]
  split
  · rename_i h
    exact iff_of_true rfl h
  · rename_i h
    exact iff_of_false (List.cons_ne_self _ _) h

/-- The run of the scanner goes on with the sentence under construction, the quote of a continuation
line gets into it unless its last part ends inside a literal, and this is the state of the whole
sentence if and only if no ordinary line has begun inside a literal and is misread for that. -/
theorem drops_iff_endsInside (r : Reopening front line) :
    (∀ back, scan (front ++ line :: back) =
      ⟨(scan front).closed ++ (scanFrom (front.length + 1) (some r.draft) (line :: back)).closed,
        (scanFrom (front.length + 1) (some r.draft) (line :: back)).pending⟩) ∧
    (r.draft.extend r.card).joined =
      r.draft.joined ++ (if EndsInside r.draft.last then r.rest else r.quote :: r.rest) ∧
    ((r.Drops ↔ EndsInside r.draft.joined) ↔
      ∀ quote, Open quote r.draft.before → ¬ Misread quote r.draft.last) := by
  refine ⟨fun back => ?_, r.joined_extend, ?_⟩
  · unfold scan
    rw [scanFrom_eq, scanFrom_eq, scanFrom_eq, Card.numbered_append, scanCards_append, r.pending,
      Nat.add_comm 1]
  · rw [r.drops_iff]
    exact r.draft.endsInside_joined

/-- The second line begins inside the literal of the first one, which only the third one ends. -/
def sample : Reopening ["       05 A PIC X(6) VALUE 'AB", "           CD"] "      -    'EF'." where
  draft := ⟨1, "CD", ["05 A PIC X(6) VALUE 'AB"]⟩
  quote := '\''
  rest := "EF'."
  pending := by rfl
  speaks := by decide
  continues := by decide
  code := by decide
  isQuote := rfl

theorem drops_iff_endsInside_sample :
    Open '\'' sample.draft.before ∧ Misread '\'' sample.draft.last ∧
      ¬ (sample.Drops ↔ EndsInside sample.draft.joined) := by
  have hopen : Open '\'' sample.draft.before := by decide
  have hmisread : Misread '\'' sample.draft.last := .through (by decide) (by decide)
  exact ⟨hopen, hmisread, fun h => (drops_iff_endsInside sample).2.2.mp h _ hopen hmisread⟩

end Reopening
end Sentence
end Copybook
