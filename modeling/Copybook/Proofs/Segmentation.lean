import Copybook.Proofs.Columns

/-!
Where sentences begin and end. The lines that say something are cut behind every line whose code ends
with a period. Each piece makes one sentence, which has the number of its first line and loses its
last period only; nothing is carried over from one piece to the next. -/
namespace Copybook

namespace Card

def Ends (c : Card) : Prop := ∃ text, c.code.trim = text ++ ['.']

theorem ends_iff {c : Card} : c.Ends ↔ Sentence.isContinued c.code = false := by
  rw [Sentence.isContinued, bne_eq_false_iff_eq, List.getLast?_eq_some_iff]
  rfl

theorem endsSolid_code {c : Card} (h : c.isSkippable = false) : Text.EndsSolid c.code.trim := by
  have hblank : c.isBlank = false := by
    simp only [isSkippable, Bool.or_eq_false_iff] at h
    exact h.2
  obtain ⟨d, hd, hsolid⟩ := List.all_eq_false.mp hblank
  exact Text.endsSolid_trim (List.ne_nil_of_mem (Text.mem_trim (by simpa using hsolid) hd))

theorem not_skippable_of_mem_numbered {number : Nat} {lines : List Text} {card : Card}
    (h : card ∈ numbered number lines) : card.isSkippable = false := by
  simpa using (List.mem_filter.mp h).2

theorem numbered_pairwise (number : Nat) (lines : List Text) :
    (numbered number lines).Pairwise fun c d => c.number < d.number := by
  induction lines generalizing number with
  | nil => exact .nil
  | cons line rest ih =>
    rw [numbered_cons]
    split
    · exact ih _
    · refine List.pairwise_cons.mpr ⟨fun d hd => ?_, ih _⟩
      obtain ⟨_, hline, -⟩ := mem_numbered hd
      exact List.le_snd_of_mem_zipIdx hline

def lower (n : Nat) (c : Card) : Card := { c with number := c.number + n }

theorem numbered_add (number n : Nat) (lines : List Text) :
    numbered (number + n) lines = (numbered number lines).map (lower n) := by
  induction lines generalizing number with
  | nil => rfl
  | cons line rest ih =>
    have hrest := ih (number + 1)
    rw [Nat.add_right_comm] at hrest
    rw [numbered_cons, numbered_cons, hrest]
    have hskip : (⟨Layout.bare line, number + n⟩ : Card).isSkippable =
        (⟨Layout.bare line, number⟩ : Card).isSkippable := rfl
    rw [hskip]
    split <;> rfl

theorem numbered_append (number : Nat) (front back : List Text) :
    numbered number (front ++ back) =
      numbered number front ++ numbered (number + front.length) back := by
  simp [numbered, List.zipIdx_append]

end Card

namespace Sentence

open Layout (bare grown closing IsFiller)

/-- Cards cut behind every one that ends a sentence, and those behind the last such cut. -/
structure IsCut (pieces : List (List Card)) (rest cards : List Card) : Prop where
  whole : pieces.flatten ++ rest = cards
  ended : ∀ piece ∈ pieces, ∃ before last, piece = before ++ [last] ∧ last.Ends ∧
    ∀ card ∈ before, ¬ card.Ends
  unended : ∀ card ∈ rest, ¬ card.Ends

/-- What cards are put together to: the number of the first one, and their code in one text. -/
inductive Assembles : List Card → Nat → Text → Prop
  | cards (first : Card) (more : List Card) :
      Assembles (first :: more) first.number (more.foldl Draft.extend (.begin first)).joined.trim

/-- A sentence made of cards the last of which ends it: one period is taken away. -/
def Closes (cards : List Card) (s : Sentence) : Prop :=
  ∃ text, Assembles cards s.line (text ++ ['.']) ∧ s.text = text.trimEnd

/-- A sentence made of cards that are left over, if there are any: nothing is taken away. -/
inductive LeavesOpen : List Card → Option Sentence → Prop
  | nothing : LeavesOpen [] none
  | sentence {cards : List Card} {s : Sentence} : Assembles cards s.line s.text →
      s.text.getLast? ≠ some '.' → LeavesOpen cards (some s)

namespace Draft

def ofCards : List Card → Option Draft
  | [] => none
  | first :: more => some (more.foldl extend (.begin first))

theorem ofCards_concat (cards : List Card) (card : Card) :
    ofCards (cards ++ [card]) = some (grown (ofCards cards) card) := by
  cases cards with
  | nil => rfl
  | cons first more => simp [ofCards, grown]

/-- The last part ends with a character that is neither blank nor a period. -/
def IsUnended (d : Draft) : Prop :=
  ∃ c, d.last.getLast? = some c ∧ isBlank c = false ∧ c ≠ '.'

theorem line_foldl (d : Draft) (cards : List Card) : (cards.foldl extend d).line = d.line := by
  induction cards generalizing d with
  | nil => rfl
  | cons card rest ih => rw [List.foldl_cons, ih, Layout.line_extend]

theorem getLast?_joined {d : Draft} {c : Char} (h : d.last.getLast? = some c)
    (hc : isBlank c = false) : d.joined.trim.getLast? = some c := by
  obtain ⟨front, hjoined⟩ := Text.join_ends [' '] d.last d.earlier.reverse
  refine Text.getLast?_trim ?_ hc
  rw [joined, List.reverse_cons, hjoined, List.getLast?_append, h, Option.some_or]

/-- A fragment is the end of its code, unless nothing but a quote has been there. -/
theorem getLast?_fragment (last code : Text) :
    (fragment last code).getLast? = code.trim.getLast? ∨
      fragment last code = [] ∧ ∃ quote, Clause.isQuote quote = true ∧ code.trim = [quote] := by
  unfold fragment
  cases code.trim with
  | nil => exact .inl rfl
  | cons c r =>
    dsimp only
    split
    · rename_i h
      cases r with
      | nil => exact .inr ⟨rfl, c, by simpa using (Bool.and_eq_true _ _ ▸ h).2, rfl⟩
      | cons d r => exact .inl (by simp)
    · exact .inl rfl

theorem getLast?_grown (draft : Option Draft) {card : Card} (hspeaks : Text.EndsSolid card.code.trim) :
    (grown draft card).last.getLast? = card.code.trim.getLast? ∨
      (∃ d, draft = some d ∧ (grown draft card).last = d.last) ∧ ¬ card.Ends := by
  cases draft with
  | none => exact .inl rfl
  | some d =>
    rw [grown, extend]
    split
    · rcases getLast?_fragment d.last card.code with h | ⟨h, quote, hquote, hcode⟩
      · left
        obtain ⟨c, hc, -⟩ := hspeaks
        rw [List.getLast?_append, h, hc, Option.some_or]
      · right
        refine ⟨⟨d, rfl, by rw [h, List.append_nil]⟩, ?_⟩
        rintro ⟨text, htext⟩
        have hlast : some quote = some '.' := by
          simpa using congrArg List.getLast? (hcode.symm.trans htext)
        obtain rfl := Option.some.inj hlast
        exact absurd hquote (by decide)
    · exact .inl rfl

theorem IsUnended.grown {draft : Option Draft} (h : ∀ d, draft = some d → d.IsUnended)
    {card : Card} (hspeaks : Text.EndsSolid card.code.trim) (hends : ¬ card.Ends) :
    (grown draft card).IsUnended := by
  rcases getLast?_grown draft hspeaks with hlast | ⟨⟨d, hd, hlast⟩, -⟩
  · obtain ⟨c, hc, hsolid⟩ := hspeaks
    refine ⟨c, hlast.trans hc, hsolid, ?_⟩
    rintro rfl
    exact hends (List.getLast?_eq_some_iff.mp hc)
  · unfold IsUnended
    rw [hlast]
    exact h d hd

theorem getLast?_joined_of_ends (draft : Option Draft) {card : Card}
    (hspeaks : Text.EndsSolid card.code.trim) (hends : card.Ends) :
    (Layout.grown draft card).joined.trim.getLast? = some '.' := by
  obtain ⟨text, htext⟩ := hends
  rcases getLast?_grown draft hspeaks with hlast | ⟨-, hnot⟩
  · exact getLast?_joined (hlast.trans (by simp [htext])) (by decide)
  · exact absurd ⟨text, htext⟩ hnot

end Draft

theorem assembles_ofCards {cards : List Card} {d : Draft} (h : Draft.ofCards cards = some d) :
    Assembles cards d.line d.joined.trim := by
  cases cards with
  | nil => cases h
  | cons first more =>
    obtain rfl := Option.some.inj h
    have hline : (more.foldl Draft.extend (.begin first)).line = first.number :=
      Draft.line_foldl _ _
    rw [hline]
    exact .cards first more

theorem closes_grown {before : List Card} {card : Card} (hspeaks : Text.EndsSolid card.code.trim)
    (hends : card.Ends) :
    Closes (before ++ [card]) (grown (Draft.ofCards before) card).finish := by
  have hperiod := Draft.getLast?_joined_of_ends (Draft.ofCards before) hspeaks hends
  obtain ⟨text, htext⟩ := List.getLast?_eq_some_iff.mp hperiod
  have hwhole := assembles_ofCards (Draft.ofCards_concat before card)
  rw [htext] at hwhole
  refine ⟨text, hwhole, ?_⟩
  unfold Draft.finish
  dsimp only
  rw [if_pos hperiod, htext, List.dropLast_concat]

theorem leavesOpen_finish {cards : List Card}
    (h : ∀ d, Draft.ofCards cards = some d → d.IsUnended) :
    LeavesOpen cards ((Draft.ofCards cards).map Draft.finish) := by
  cases hcards : Draft.ofCards cards with
  | none =>
    cases cards with
    | nil => exact .nothing
    | cons first more => cases hcards
  | some d =>
    obtain ⟨c, hc, hsolid, hperiod⟩ := h d hcards
    have hlast : d.joined.trim.getLast? ≠ some '.' := by
      rw [Draft.getLast?_joined hc hsolid]
      exact fun he => hperiod (Option.some.inj he)
    have htext : d.finish.text = d.joined.trim := by
      unfold Draft.finish
      dsimp only
      rw [if_neg hlast]
    refine .sentence ?_ (htext ▸ hlast)
    rw [htext]
    exact assembles_ofCards hcards

/-- What a scan makes of its cards, behind those that the sentence under construction stands on. -/
theorem scanCards_cut (before : List Card) {cards : List Card}
    (hspeaks : ∀ card ∈ cards, Text.EndsSolid card.code.trim) (hbefore : ∀ card ∈ before, ¬ card.Ends)
    (hdraft : ∀ d, Draft.ofCards before = some d → d.IsUnended) :
    ∃ pieces rest, IsCut pieces rest (before ++ cards) ∧
      List.Forall₂ Closes pieces (scanCards (Draft.ofCards before) cards).closed ∧
      LeavesOpen rest (scanCards (Draft.ofCards before) cards).pending := by
  induction cards generalizing before with
  | nil => exact ⟨[], before, ⟨by simp, by simp, hbefore⟩, .nil, leavesOpen_finish hdraft⟩
  | cons card rest ih =>
    obtain ⟨hcard, hrest⟩ := List.forall_mem_cons.mp hspeaks
    rw [scanCards]
    cases hcontinued : isContinued card.code with
    | true =>
      have hends : ¬ card.Ends := by simp [Card.ends_iff, hcontinued]
      have hlonger := ih (before ++ [card]) hrest
        (by simpa [or_imp, forall_and] using ⟨hbefore, hends⟩)
        (by
          rw [Draft.ofCards_concat]
          rintro _ ⟨⟩
          exact Draft.IsUnended.grown hdraft hcard hends)
      rw [Draft.ofCards_concat, List.append_assoc] at hlonger
      exact hlonger
    | false =>
      have hends : card.Ends := Card.ends_iff.mpr hcontinued
      obtain ⟨pieces, left, ⟨hwhole, hended, hunended⟩, hclosed, hpending⟩ :=
        ih [] hrest (by simp) (by rintro _ ⟨⟩)
      refine ⟨(before ++ [card]) :: pieces, left, ⟨?_, ?_, hunended⟩, ?_, hpending⟩
      · simpa using hwhole
      · exact List.forall_mem_cons.mpr ⟨⟨before, card, rfl, hends, hbefore⟩, hended⟩
      · exact .cons (closes_grown hcard hends) hclosed

theorem lines_scanCards (draft : Option Draft) (cards : List Card) :
    ((scanCards draft cards).closed ++ (scanCards draft cards).pending.toList).map (·.line) =
      draft.toList.map (·.line) ++ (Card.openings draft.isSome cards).map (·.number) := by
  induction cards generalizing draft with
  | nil => cases draft <;> rfl
  | cons card rest ih =>
    rw [scanCards]
    have hline : (grown draft card).line = ((draft.map (·.line)).getD card.number) := by
      cases draft with
      | none => rfl
      | some d => exact Layout.line_extend d card
    cases hcontinued : isContinued card.code with
    | true =>
      rw [if_pos rfl, ih]
      cases draft <;> simp_all [Card.openings]
    | false =>
      rw [if_neg (by simp), closing, List.cons_append, List.map_cons, ih]
      have hfinish : (grown draft card).finish.line = (grown draft card).line := rfl
      rw [hfinish, hline]
      cases draft <;> simp_all [Card.openings]

def Draft.after (draft : Option Draft) (cards : List Card) : Option Draft :=
  cards.foldl (fun draft card => if isContinued card.code then some (grown draft card) else none)
    draft

/-- Of the cards before, a scan keeps nothing but the sentence under construction. -/
theorem scanCards_append (draft : Option Draft) (cards more : List Card) :
    scanCards draft (cards ++ more) =
      ⟨(scanCards draft cards).closed ++ (scanCards (Draft.after draft cards) more).closed,
        (scanCards (Draft.after draft cards) more).pending⟩ := by
  induction cards generalizing draft with
  | nil => rfl
  | cons card rest ih =>
    rw [List.cons_append, scanCards, scanCards, Draft.after, List.foldl_cons]
    split
    · exact ih _
    · rw [ih]
      rfl

theorem pending_scanCards (draft : Option Draft) (cards : List Card) :
    (scanCards draft cards).pending = (Draft.after draft cards).map Draft.finish := by
  induction cards generalizing draft with
  | nil => rfl
  | cons card rest ih =>
    rw [scanCards, Draft.after, List.foldl_cons]
    split
    · exact ih _
    · exact ih _

def lower (n : Nat) (s : Sentence) : Sentence := { s with line := s.line + n }

def Draft.lower (n : Nat) (d : Draft) : Draft := { d with line := d.line + n }

theorem Draft.grown_lower (n : Nat) (draft : Option Draft) (card : Card) :
    grown (draft.map (Draft.lower n)) (card.lower n) = (grown draft card).lower n := by
  cases draft with
  | none => rfl
  | some d =>
    have hcontinuation : (card.lower n).isContinuation = card.isContinuation := rfl
    rw [Option.map_some, grown, grown, extend, extend, hcontinuation]
    split <;> rfl

theorem scanCards_lower (n : Nat) (draft : Option Draft) (cards : List Card) :
    scanCards (draft.map (Draft.lower n)) (cards.map (Card.lower n)) =
      ⟨(scanCards draft cards).closed.map (lower n), (scanCards draft cards).pending.map (lower n)⟩ := by
  induction cards generalizing draft with
  | nil => cases draft <;> rfl
  | cons card rest ih =>
    have hcode : (card.lower n).code = card.code := rfl
    have hopen := ih (some (grown draft card))
    have hnone := ih none
    rw [Option.map_some] at hopen
    rw [Option.map_none] at hnone
    rw [List.map_cons, scanCards, scanCards, hcode, Draft.grown_lower, hopen, hnone]
    split <;> rfl

def EndsSentence (line : Text) : Prop :=
  ¬ IsFiller line ∧ ∃ text, Text.trim (((bare line).drop 7).take 65) = text ++ ['.']

theorem ofLines_behind (front : List Text) {last : Text} (hends : EndsSentence last)
    (back : List Text) : ofLines (front ++ last :: back) =
      ofLines (front ++ [last]) ++ (ofLines back).map (lower (front.length + 1)) := by
  obtain ⟨hspeaks, hperiod⟩ := hends
  have hskip : ¬ (⟨bare last, 1 + front.length⟩ : Card).isSkippable = true :=
    fun h => hspeaks (Layout.isFiller_of_isSkippable h)
  have hcontinued : isContinued (⟨bare last, 1 + front.length⟩ : Card).code = false :=
    Card.ends_iff.mp hperiod
  have hafter : Draft.after none (Card.numbered 1 (front ++ [last])) = none := by
    rw [Card.numbered_append, Card.numbered_cons, if_neg hskip, Draft.after, List.foldl_append,
      List.foldl_cons, if_neg (by simp [hcontinued])]
    rfl
  have hback : Card.numbered (1 + (front ++ [last]).length) back =
      (Card.numbered 1 back).map (Card.lower (front.length + 1)) := by
    rw [Card.numbered_add, List.length_append, List.length_singleton]
  have hlower := scanCards_lower (front.length + 1) none (Card.numbered 1 back)
  rw [Option.map_none] at hlower
  have hpending := pending_scanCards none (Card.numbered 1 (front ++ [last]))
  rw [hafter, Option.map_none] at hpending
  unfold ofLines scan
  rw [List.append_cons, scanFrom_eq, scanFrom_eq, scanFrom_eq, Card.numbered_append, hback,
    scanCards_append, hafter, hlower, hpending]
  cases (scanCards none (Card.numbered 1 back)).pending <;> simp

/-- Every list of lines is cut into sentences: one for each line that says something and ends with a
period, and at most one behind the last such line. They are numbered by lines that say something, in
order, and what stands behind an ending line is read by itself. -/
theorem ofLines_segmented (lines : List Text) :
    (∃ pieces rest, IsCut pieces rest (Card.numbered 1 lines) ∧
      List.Forall₂ Closes pieces (scan lines).closed ∧ LeavesOpen rest (scan lines).pending) ∧
    ((ofLines lines).map (·.line)).Pairwise (· < ·) ∧
    (∀ s ∈ ofLines lines, ∃ line, (line, s.line) ∈ lines.zipIdx 1 ∧ ¬ IsFiller line) ∧
    ∀ front last back, lines = front ++ last :: back → EndsSentence last → ofLines lines =
      ofLines (front ++ [last]) ++ (ofLines back).map (lower (front.length + 1)) := by
  have hlines : (ofLines lines).map (·.line) =
      (Card.openings false (Card.numbered 1 lines)).map (·.number) := by
    have h := lines_scanCards none (Card.numbered 1 lines)
    rwa [← scanFrom_eq] at h
  refine ⟨?_, ?_, ?_, ?_⟩
  · have hspeaks : ∀ card ∈ Card.numbered 1 lines, Text.EndsSolid card.code.trim :=
      fun card hcard => Card.endsSolid_code (Card.not_skippable_of_mem_numbered hcard)
    have hcut := scanCards_cut [] hspeaks (by simp) (by rintro _ ⟨⟩)
    rwa [show Draft.ofCards [] = none from rfl, ← scanFrom_eq] at hcut
  · rw [hlines, List.pairwise_map]
    exact (Card.numbered_pairwise 1 lines).sublist (Card.openings_sublist _ _)
  · intro s hs
    have hline : s.line ∈ (ofLines lines).map (·.line) := List.mem_map_of_mem hs
    rw [hlines] at hline
    obtain ⟨card, hcard, hnumber⟩ := List.mem_map.mp hline
    obtain ⟨line, hplace, hessence⟩ := Card.mem_numbered (Card.openings_subset _ _ hcard)
    refine ⟨line, hnumber ▸ hplace, fun hfiller => ?_⟩
    rw [Layout.essence, if_pos hfiller] at hessence
    cases hessence
  · rintro front last back rfl hends
    exact ofLines_behind front hends back

/-- A continuation line without a sentence to continue, a comment, and a sentence that is left open. -/
def sampleFront : List Text := ["      -    05 A PIC X VALUE 'B", "000200* NOTE."]

def sampleLast : Text := "000300-      '..  "

def sampleBack : List Text := ["000400 05 C.", "", "000600 05 D", "000700     PIC 9"]

theorem ofLines_segmented_sample : EndsSentence sampleLast ∧
    ofLines (sampleFront ++ sampleLast :: sampleBack) =
      [⟨1, "05 A PIC X VALUE 'B."⟩] ++ [⟨4, "05 C"⟩, ⟨6, "05 D PIC 9"⟩] := by
  have hends : EndsSentence sampleLast := ⟨by decide, "'.", by decide⟩
  refine ⟨hends, ?_⟩
  rw [(ofLines_segmented _).2.2.2 sampleFront sampleLast sampleBack rfl hends]
  decide

end Sentence
end Copybook
