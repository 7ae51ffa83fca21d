import Copybook.Proofs.Literal
import Copybook.Proofs.Text

/-!
Layouts of sentences over physical lines. A sentence with its period is cut into pieces, each of
which stands on a line of its own; between the lines there may be others that say nothing. Every
layout of a list of sentences is put together to these sentences again. -/
namespace Copybook
namespace Layout

open Literal (Closed Open)
open Sentence (openQuote hasOpenLiteral isContinued Draft)
open Text (BeginsSolid EndsSolid IsBlankText)

def isLineEnd (c : Char) : Bool := c = '\r' || c = '\n'

/-- A line as far as its line end. -/
def bare (line : Text) : Text := Text.dropEndWhile isLineEnd line

/-- Lines that say nothing: too short for code, comments, or blank in columns 8 to 72. -/
def IsFiller (line : Text) : Prop :=
  (bare line).length < 8 ∨ (bare line)[6]? = some '*' ∨ (bare line)[6]? = some '/' ∨
    IsBlankText (((bare line).drop 7).take 65)

/-- A line that shows `content` in columns 8 to 72. Blanks may surround it there. -/
structure Image (content : Text) where
  sequence : Text
  indent : Text
  /-- What follows the content, with all that stands beyond column 72 and with the line end. -/
  rest : Text
  length_sequence : sequence.length = 6
  blank_indent : IsBlankText indent
  fits : indent.length + content.length ≤ 65
  blank_rest : IsBlankText (rest.take (65 - (indent.length + content.length)))

def Image.line {content : Text} (image : Image content) (indicator : Char) : Text :=
  image.sequence ++ indicator :: (image.indent ++ content ++ image.rest)

/-- How a sentence is cut in two: at a blank between words, inside a word, or inside a literal,
whose quote is then written again. -/
inductive Cut
  | blank | word | literal (quote : Char)
  deriving DecidableEq

namespace Cut

def omitted : Cut → Text
  | .blank => [' ']
  | _ => []

def added : Cut → Text
  | .literal quote => [quote]
  | _ => []

def Allows : Cut → Char → Prop
  | .blank, indicator => indicator ≠ '*' ∧ indicator ≠ '/' ∧ indicator ≠ '-'
  | _, indicator => indicator = '-'

def Fits (before piece : Text) : Cut → Prop
  | .blank => Closed before ∧ BeginsSolid piece
  | .word => Closed before ∧ BeginsSolid piece
  | .literal quote => Open quote before

end Cut

/-- No piece ends with a blank, and only the last one with a period. -/
def EndsWell (piece rest : Text) : Prop :=
  EndsSolid piece ∧ (piece.getLast? = some '.' → rest = [])

/-- The lines on which a sentence goes on: after `before`, they hold the rest of it. -/
inductive Continues : Text → Text → List Text → Prop
  | done (before : Text) : Continues before [] []
  | piece {before piece rest : Text} {cut : Cut} {fillers lines : List Text} {indicator : Char} :
      (∀ line ∈ fillers, IsFiller line) → cut.Fits before piece → EndsWell piece rest →
      cut.Allows indicator → (image : Image (cut.added ++ piece)) →
      Continues (before ++ cut.omitted ++ piece) rest lines →
      Continues before (cut.omitted ++ piece ++ rest) (fillers ++ image.line indicator :: lines)

def IsTrimmed (t : Text) : Prop :=
  (∀ c, t.head? = some c → isBlank c = false) ∧ ∀ c, t.getLast? = some c → isBlank c = false

inductive IsLayout : Nat → List Sentence → List Text → Prop
  | done {number : Nat} {fillers : List Text} : (∀ line ∈ fillers, IsFiller line) →
      IsLayout number [] fillers
  | sentence {number : Nat} {text piece rest : Text} {fillers lines following : List Text}
      {indicator : Char} {more : List Sentence} :
      IsTrimmed text → text ++ ['.'] = piece ++ rest →
      (∀ line ∈ fillers, IsFiller line) → EndsWell piece rest → Cut.blank.Allows indicator →
      (image : Image piece) → Continues piece rest lines →
      IsLayout (number + fillers.length + 1 + lines.length) more following →
      IsLayout number (⟨number + fillers.length, text⟩ :: more)
        (fillers ++ image.line indicator :: (lines ++ following))

theorem IsFiller.isSkippable {line : Text} (h : IsFiller line) (number : Nat) :
    (⟨bare line, number⟩ : Card).isSkippable = true := by
  rcases h with h | h | h | h
  · simp [Card.isSkippable, h]
  · simp [Card.isSkippable, Card.isComment, Card.kind, Card.indicator, h]
  · simp [Card.isSkippable, Card.isComment, Card.kind, Card.indicator, h]
  · have hb : (⟨bare line, number⟩ : Card).isBlank = true :=
      List.all_eq_true.mpr h
    simp [Card.isSkippable, hb]

/-- The sentence under construction after a card. -/
def grown (draft : Option Draft) (card : Card) : Draft :=
  match draft with
  | none => .begin card
  | some d => d.extend card

def closing (sentence : Sentence) (scan : Sentence.Scan) : Sentence.Scan :=
  { scan with closed := sentence :: scan.closed }

theorem scanFrom_cons (number : Nat) (draft : Option Draft) (line : Text) (following : List Text) :
    Sentence.scanFrom number draft (line :: following) =
      if (⟨bare line, number⟩ : Card).isSkippable then
        Sentence.scanFrom (number + 1) draft following
      else if isContinued (⟨bare line, number⟩ : Card).code then
        Sentence.scanFrom (number + 1) (some (grown draft ⟨bare line, number⟩)) following
      else closing (grown draft ⟨bare line, number⟩).finish
        (Sentence.scanFrom (number + 1) none following) := by
  cases draft <;> rfl

theorem scanFrom_fillers {fillers : List Text} (h : ∀ line ∈ fillers, IsFiller line) (number : Nat)
    (draft : Option Draft) (following : List Text) :
    Sentence.scanFrom number draft (fillers ++ following) =
      Sentence.scanFrom (number + fillers.length) draft following := by
  induction fillers generalizing number with
  | nil => rfl
  | cons line fillers ih =>
    have hs := (h line (by simp)).isSkippable number
    rw [List.cons_append, scanFrom_cons, if_pos hs, ih (fun line hl => h line (by simp [hl]))]
    simp [Nat.add_comm, Nat.add_left_comm]

theorem not_isLineEnd {c : Char} (h : isBlank c = false) : isLineEnd c = false := by
  cases he : isLineEnd c with
  | false => rfl
  | true =>
    simp only [isLineEnd, Bool.or_eq_true, decide_eq_true_eq] at he
    rcases he with rfl | rfl <;> simp [isBlank] at h

namespace Image

variable {content : Text} (image : Image content)

/-- What the line end leaves of the text behind the content. -/
def behind : Text := Text.dropEndWhile isLineEnd image.rest

theorem bare_line (hend : EndsSolid content) (indicator : Char) :
    bare (image.line indicator) =
      image.sequence ++ indicator :: (image.indent ++ content ++ image.behind) := by
  obtain ⟨c, hc, hb⟩ := hend
  have hl : (image.sequence ++ indicator :: image.indent ++ content).getLast? = some c := by
    rw [List.getLast?_append, hc, Option.some_or]
  have h := Text.dropEndWhile_append hl (not_isLineEnd hb) image.rest
  simpa [bare, line, behind] using h

theorem blank_behind :
    IsBlankText (image.behind.take (65 - (image.indent.length + content.length))) := by
  obtain ⟨ended, hended⟩ := Text.dropEndWhile_prefix isLineEnd image.rest
  have h := image.blank_rest
  rw [← hended, List.take_append] at h
  exact fun c hc => h c (List.mem_append_left _ hc)

theorem code_card (hend : EndsSolid content) (indicator : Char) (number : Nat) :
    (⟨bare (image.line indicator), number⟩ : Card).code = image.indent ++ content ++
      image.behind.take (65 - (image.indent.length + content.length)) := by
  have hfits : (image.indent ++ content).length ≤ 65 := by simpa using image.fits
  have hdrop : (bare (image.line indicator)).drop 7 = image.indent ++ content ++ image.behind := by
    rw [image.bare_line hend, List.append_cons]
    exact List.drop_left' (by simp [image.length_sequence])
  rw [Card.code, hdrop, List.take_append, List.take_of_length_le hfits, List.length_append]

theorem trim_code_card (hbegin : BeginsSolid content) (hend : EndsSolid content) (indicator : Char)
    (number : Nat) : (⟨bare (image.line indicator), number⟩ : Card).code.trim = content := by
  rw [image.code_card hend]
  exact Text.trim_append image.blank_indent hbegin hend image.blank_behind

theorem indicator_card (hend : EndsSolid content) (indicator : Char) (number : Nat) :
    (⟨bare (image.line indicator), number⟩ : Card).indicator = some indicator := by
  simp [Card.indicator, image.bare_line hend, image.length_sequence]

theorem isSkippable_card (hend : EndsSolid content) {indicator : Char} (number : Nat)
    (hstar : indicator ≠ '*') (hslash : indicator ≠ '/') :
    (⟨bare (image.line indicator), number⟩ : Card).isSkippable = false := by
  have hi := image.indicator_card hend indicator number
  have hlen : 8 ≤ (bare (image.line indicator)).length := by
    have hc : 0 < content.length := List.length_pos_iff.mpr hend.ne_nil
    rw [image.bare_line hend]
    simp [image.length_sequence]
    omega
  have hb : (⟨bare (image.line indicator), number⟩ : Card).isBlank = false := by
    obtain ⟨c, hc, hs⟩ := hend
    rw [Card.isBlank, image.code_card ⟨c, hc, hs⟩]
    refine List.all_eq_false.mpr ⟨c, ?_, by simp [hs]⟩
    simp [List.mem_of_getLast? hc]
  have hk : (⟨bare (image.line indicator), number⟩ : Card).kind ≠ .comment ∧
      (⟨bare (image.line indicator), number⟩ : Card).kind ≠ .page := by
    constructor <;> (unfold Card.kind; rw [hi]; split <;> simp_all)
  simp [Card.isSkippable, Card.isComment, hk, hb]
  omega

theorem isContinuation_card (hend : EndsSolid content) (indicator : Char) (number : Nat) :
    (⟨bare (image.line indicator), number⟩ : Card).isContinuation = decide (indicator = '-') := by
  have hi := image.indicator_card hend indicator number
  rw [Card.isContinuation, Card.kind, hi]
  split <;> simp_all

end Image

/-- The draft spells the beginning of a sentence. Its last part ends inside a literal exactly when
that beginning does, since no part begins inside one. -/
structure Spells (d : Draft) (before : Text) : Prop where
  joined : d.joined = before
  quote : openQuote none d.last = openQuote none before

theorem spells_begin {card : Card} {piece : Text} (ht : card.code.trim = piece) :
    Spells (.begin card) piece := by
  constructor <;> simp [Draft.begin, Draft.joined, Text.join, ht]

section Extend

variable {d : Draft} {before piece : Text} (hd : Spells d before)
include hd

theorem Spells.concat (hclosed : Closed before) :
    Spells ⟨d.line, piece, d.last :: d.earlier⟩ (before ++ [' '] ++ piece) := by
  constructor
  · have hj := hd.joined
    simp only [Draft.joined, List.reverse_cons] at hj ⊢
    rw [Text.join_concat, hj]
  · have hspace : openQuote none ([' '] ++ piece) = openQuote none piece := rfl
    rw [List.append_assoc, Literal.openQuote_append, Literal.openQuote_of_closed hclosed, hspace]

theorem Spells.append_last : Spells ⟨d.line, d.last ++ piece, d.earlier⟩ (before ++ piece) := by
  constructor
  · have hj := hd.joined
    simp only [Draft.joined, List.reverse_cons] at hj ⊢
    rw [Text.join_append_last, hj]
  · rw [Literal.openQuote_append, Literal.openQuote_append, hd.quote]

theorem Spells.fragment_word {code : Text} (hcode : code.trim = piece) (hclosed : Closed before) :
    Draft.fragment d.last code = piece := by
  have hq : hasOpenLiteral d.last = false := by
    rw [hasOpenLiteral, hd.quote, Literal.openQuote_of_closed hclosed]
    rfl
  rw [Draft.fragment, hcode]
  cases piece <;> simp [hq]

/-- Inside a literal a continuation loses the quote that is written again. -/
theorem Spells.fragment_literal {code : Text} {quote : Char} (hcode : code.trim = quote :: piece)
    (hopen : Open quote before) : Draft.fragment d.last code = piece := by
  have hq : hasOpenLiteral d.last = true := by
    rw [hasOpenLiteral, hd.quote, Literal.openQuote_of_open hopen]
    rfl
  obtain ⟨_, _, _, hquote, _, _⟩ := hopen
  simp [Draft.fragment, hcode, hq, hquote]

end Extend

theorem isQuote_solid {quote : Char} (h : Clause.isQuote quote = true) : isBlank quote = false := by
  simp only [Clause.isQuote, Bool.or_eq_true, decide_eq_true_eq] at h
  rcases h with rfl | rfl <;> decide

theorem Cut.Fits.beginsSolid {cut : Cut} {before piece : Text} (h : cut.Fits before piece) :
    BeginsSolid (cut.added ++ piece) := by
  cases cut with
  | blank => exact h.2
  | word => exact h.2
  | literal quote =>
    obtain ⟨_, _, _, hquote, _, _⟩ := h
    exact ⟨quote, rfl, isQuote_solid hquote⟩

theorem Spells.extend {d : Draft} {before piece : Text} {cut : Cut} {card : Card}
    (hd : Spells d before) (hfits : cut.Fits before piece)
    (ht : card.code.trim = cut.added ++ piece) (hc : card.isContinuation = decide (cut ≠ .blank)) :
    Spells (d.extend card) (before ++ cut.omitted ++ piece) := by
  cases cut with
  | blank =>
    have hext : d.extend card = ⟨d.line, piece, d.last :: d.earlier⟩ := by
      rw [Draft.extend, hc, ht]
      rfl
    rw [hext]
    exact hd.concat hfits.1
  | word =>
    have hext : d.extend card = ⟨d.line, d.last ++ piece, d.earlier⟩ := by
      rw [Draft.extend, hc, hd.fragment_word ht hfits.1]
      rfl
    rw [hext]
    simpa [Cut.omitted] using hd.append_last
  | literal quote =>
    have hext : d.extend card = ⟨d.line, d.last ++ piece, d.earlier⟩ := by
      rw [Draft.extend, hc, hd.fragment_literal ht hfits]
      rfl
    rw [hext]
    simpa [Cut.omitted] using hd.append_last

theorem Cut.Allows.isContinuation {cut : Cut} {indicator : Char} (h : cut.Allows indicator) :
    decide (indicator = '-') = decide (cut ≠ .blank) := by
  cases cut with
  | blank => simp [h.2.2]
  | word => simp [show indicator = '-' from h]
  | literal quote => simp [show indicator = '-' from h]

theorem Cut.Allows.not_comment {cut : Cut} {indicator : Char} (h : cut.Allows indicator) :
    indicator ≠ '*' ∧ indicator ≠ '/' := by
  cases cut with
  | blank => exact ⟨h.1, h.2.1⟩
  | word => rw [show indicator = '-' from h]; decide
  | literal quote => rw [show indicator = '-' from h]; decide

theorem IsTrimmed.beginsSolid {text : Text} (h : IsTrimmed text) : BeginsSolid (text ++ ['.']) := by
  cases text with
  | nil => exact ⟨'.', rfl, by decide⟩
  | cons c r => exact ⟨c, rfl, h.1 c rfl⟩

theorem Spells.finish {d : Draft} {text : Text} (hd : Spells d (text ++ ['.']))
    (ht : IsTrimmed text) : d.finish = ⟨d.line, text⟩ := by
  have hend : EndsSolid (text ++ ['.']) := ⟨'.', by simp, by decide⟩
  have htrim : d.joined.trim = text ++ ['.'] := by
    rw [hd.joined, Text.trim_eq_self ht.beginsSolid hend]
  have hlast : Text.trimEnd text = text := by
    cases hl : text.getLast? with
    | none => rw [List.getLast?_eq_none_iff.mp hl]; rfl
    | some c =>
      have h := Text.trimEnd_append ⟨c, hl, ht.2 c hl⟩ Text.isBlankText_nil
      simpa using h
  simp [Draft.finish, htrim, hlast]

theorem Continues.eq_nil {before rest : Text} {lines : List Text}
    (h : Continues before rest lines) (hrest : rest = []) : lines = [] := by
  cases h with
  | done => rfl
  | piece _ _ hwell => simp [hwell.1.ne_nil] at hrest

theorem EndsWell.isContinued_iff {before piece rest text code written : Text}
    (h : EndsWell piece rest) (hcut : before ++ piece ++ rest = text ++ ['.'])
    (hcode : code.trim = written ++ piece) : isContinued code = true ↔ rest ≠ [] := by
  obtain ⟨c, hc, _⟩ := h.1
  have hlast : code.trim.getLast? = some c := by
    rw [hcode, List.getLast?_append, hc, Option.some_or]
  rw [isContinued, hlast]
  constructor
  · rintro hne rfl
    have hperiod := congrArg List.getLast? hcut
    rw [List.append_nil, List.getLast?_append, hc] at hperiod
    simp_all
  · intro hrest
    have hne : c ≠ '.' := fun he => hrest (h.2 (by rw [hc, he]))
    simp [hne]

theorem Image.card_spec {content piece : Text} {cut : Cut} {indicator : Char}
    (image : Image content) (hcontent : content = cut.added ++ piece) (hbegin : BeginsSolid content)
    (hend : EndsSolid piece) (hallows : cut.Allows indicator) (number : Nat) :
    (⟨bare (image.line indicator), number⟩ : Card).isSkippable = false ∧
      (⟨bare (image.line indicator), number⟩ : Card).code.trim = cut.added ++ piece ∧
      (⟨bare (image.line indicator), number⟩ : Card).isContinuation = decide (cut ≠ .blank) := by
  subst hcontent
  have hend' : EndsSolid (cut.added ++ piece) := hend.append _
  refine ⟨?_, image.trim_code_card hbegin hend' _ _, ?_⟩
  · exact image.isSkippable_card hend' _ hallows.not_comment.1 hallows.not_comment.2
  · exact (image.isContinuation_card hend' _ _).trans hallows.isContinuation

theorem line_extend (d : Draft) (card : Card) : (d.extend card).line = d.line := by
  unfold Draft.extend
  split <;> rfl

theorem scanFrom_continues {before rest text : Text} {lines : List Text} {d : Draft}
    (h : Continues before rest lines) (hd : Spells d before) (hrest : rest ≠ [])
    (hcut : before ++ rest = text ++ ['.']) (ht : IsTrimmed text) (number : Nat)
    (following : List Text) :
    Sentence.scanFrom number (some d) (lines ++ following) =
      closing ⟨d.line, text⟩ (Sentence.scanFrom (number + lines.length) none following) := by
  -- over the lines that are left; the draft spells what has been cut off before them
  induction h generalizing d number with
  | done before => exact absurd rfl hrest
  | @piece before piece rest cut fillers lines indicator hfillers hfits hwell hallows image htail ih =>
    have hspec := image.card_spec rfl hfits.beginsSolid hwell.1 hallows (number + fillers.length)
    rw [List.append_assoc, scanFrom_fillers hfillers, List.cons_append, scanFrom_cons]
    generalize (⟨bare (image.line indicator), number + fillers.length⟩ : Card) = card at hspec ⊢
    obtain ⟨hskip, htrim, hcont⟩ := hspec
    have hspells := hd.extend hfits htrim hcont
    have hline : (d.extend card).line = d.line := line_extend d card
    have hcut' : before ++ cut.omitted ++ piece ++ rest = text ++ ['.'] := by
      simpa [List.append_assoc] using hcut
    have hgoes := hwell.isContinued_iff hcut' htrim
    rw [if_neg (by simp [hskip])]
    by_cases hlast : rest = []
    · obtain rfl := htail.eq_nil hlast
      subst hlast
      have hfinish : (d.extend card).finish = ⟨d.line, text⟩ := by
        rw [← hline]
        exact Spells.finish (by simpa [← hcut'] using hspells) ht
      rw [if_neg (by simpa using hgoes), grown, hfinish]
      simp [Nat.add_assoc]
    · rw [if_pos (hgoes.mpr hlast), grown, ih hspells hlast hcut', hline]
      simp [Nat.add_assoc, Nat.add_comm, Nat.add_left_comm]

theorem scanFrom_sentence {text piece rest : Text} {lines : List Text} {indicator : Char}
    (ht : IsTrimmed text) (hcut : text ++ ['.'] = piece ++ rest) (hwell : EndsWell piece rest)
    (hallows : Cut.blank.Allows indicator) (image : Image piece) (h : Continues piece rest lines)
    (number : Nat) (following : List Text) :
    Sentence.scanFrom number none (image.line indicator :: (lines ++ following)) =
      closing ⟨number, text⟩ (Sentence.scanFrom (number + 1 + lines.length) none following) := by
  have hbegin : BeginsSolid piece := by
    obtain ⟨c, hc, hs⟩ := ht.beginsSolid
    cases piece with
    | nil => exact absurd rfl hwell.1.ne_nil
    | cons d r => exact ⟨c, by simpa [hcut] using hc, hs⟩
  have hcontent : piece = Cut.blank.added ++ piece := rfl
  have hspec := image.card_spec hcontent hbegin hwell.1 hallows number
  rw [scanFrom_cons]
  generalize hcard : (⟨bare (image.line indicator), number⟩ : Card) = card at hspec ⊢
  obtain ⟨hskip, htrim, -⟩ := hspec
  have hline : (Draft.begin card).line = number := by rw [← hcard]; rfl
  have hspells : Spells (.begin card) piece := spells_begin htrim
  have hwhole : [] ++ piece ++ rest = text ++ ['.'] := hcut.symm
  have hgoes := hwell.isContinued_iff hwhole htrim
  rw [if_neg (by simp [hskip]), grown]
  by_cases hlast : rest = []
  · obtain rfl := h.eq_nil hlast
    subst hlast
    have hfinish : (Draft.begin card).finish = ⟨(Draft.begin card).line, text⟩ :=
      Spells.finish (by simpa [hcut] using hspells) ht
    rw [if_neg (by simpa using hgoes), hfinish, hline]
    rfl
  · rw [if_pos (hgoes.mpr hlast), scanFrom_continues h hspells hlast hcut.symm ht, hline]

theorem scanFrom_layout {number : Nat} {sentences : List Sentence} {lines : List Text}
    (h : IsLayout number sentences lines) :
    Sentence.scanFrom number none lines = ⟨sentences, none⟩ := by
  induction h with
  | @done number fillers hfillers =>
    have hscan := scanFrom_fillers hfillers number none []
    rw [List.append_nil] at hscan
    rw [hscan]
    rfl
  | sentence ht hcut hfillers hwell hallows image hcontinues _ ih =>
    rw [scanFrom_fillers hfillers, scanFrom_sentence ht hcut hwell hallows image hcontinues, ih]
    rfl

/-- However sentences are laid out over lines, they are what the lines are put together to. -/
theorem ofLines_layout {sentences : List Sentence} {lines : List Text}
    (h : IsLayout 1 sentences lines) : Sentence.ofLines lines = sentences := by
  simp [Sentence.ofLines, Sentence.scan, scanFrom_layout h]

def sampleSentences : List Sentence := [⟨2, "01  R"⟩, ⟨3, "5 AB VALUE 'C D' X"⟩]

/-- The second sentence is cut inside a word, inside a literal and at a blank. -/
def sampleLines : List Text :=
  ["000100*", "000200 01  R. \n", "000300   5 A", "000400/", "000500", "000600- B VALUE 'C",
    "000700-  ' D'", "000800 X.\r\n", ""]

theorem isLayout_sample : IsLayout 1 sampleSentences sampleLines := by
  have hlast : Continues "5 AB VALUE 'C D'" " X." (sampleLines.drop 7 |>.take 1) :=
    @Continues.piece _ "X." [] .blank [] _ ' ' (by simp) ⟨by decide, 'X', rfl, by decide⟩
      ⟨⟨'.', rfl, by decide⟩, by decide⟩ ⟨by decide, by decide, by decide⟩
      ⟨"000800", [], "\r\n", rfl, by decide, by decide, by decide⟩ (.done _)
  have hliteral : Continues "5 AB VALUE 'C" " D' X." (sampleLines.drop 6 |>.take 2) :=
    @Continues.piece _ " D'" " X." (.literal '\'') [] _ '-' (by simp)
      (show Open '\'' _ by decide) ⟨⟨'\'', rfl, by decide⟩, by decide⟩ rfl
      ⟨"000700", "  ", [], rfl, by decide, by decide, by decide⟩ hlast
  have hword : Continues "5 A" "B VALUE 'C D' X." (sampleLines.drop 3 |>.take 5) :=
    @Continues.piece _ "B VALUE 'C" " D' X." .word ["000400/", "000500"] _ '-'
      (by simp [IsFiller]; decide) ⟨by decide, 'B', rfl, by decide⟩
      ⟨⟨'C', rfl, by decide⟩, by decide⟩ rfl
      ⟨"000600", " ", [], rfl, by decide, by decide, by decide⟩ hliteral
  have hsecond : IsLayout 3 (sampleSentences.drop 1) (sampleLines.drop 2) :=
    @IsLayout.sentence _ _ "5 A" "B VALUE 'C D' X." [] _ [[]] ' ' _
      ⟨by rintro c ⟨⟩; decide, by rintro c ⟨⟩; decide⟩ rfl (by simp)
      ⟨⟨'A', rfl, by decide⟩, by decide⟩ ⟨by decide, by decide, by decide⟩
      ⟨"000300", "  ", [], rfl, by decide, by decide, by decide⟩ hword
      (.done (by simp [IsFiller]; decide))
  exact @IsLayout.sentence _ _ "01  R." [] ["000100*"] [] _ ' ' _
    ⟨by rintro c ⟨⟩; decide, by rintro c ⟨⟩; decide⟩ rfl (by simp [IsFiller]; decide)
    ⟨⟨'.', rfl, by decide⟩, by decide⟩ ⟨by decide, by decide, by decide⟩
    ⟨"000200", [], " \n", rfl, by decide, by decide, by decide⟩ (.done _) hsecond

theorem ofLines_layout_sample :
    IsLayout 1 sampleSentences sampleLines ∧ Sentence.ofLines sampleLines = sampleSentences :=
  ⟨isLayout_sample, ofLines_layout isLayout_sample⟩

end Layout
end Copybook
