import Copybook.Proofs.Clause

/-!
Quoted values. The text of the values is split at its blanks and put together again with single ones,
and it loses the quotes at its ends when there is no blank in it. For one literal without blanks and
for several with a blank somewhere that is what their quotes are there for; a literal with blanks keeps
its quotes, and a list without blanks loses the outer ones. -/
namespace Copybook

namespace Text

/-- Every run of blanks becomes a single space. -/
def squeeze : Text → Text
  | [] => []
  | c :: r =>
    if isBlank c then if r.head?.any isBlank then squeeze r else ' ' :: squeeze r
    else c :: squeeze r

def solid (t : Text) : Text := t.filter fun c => !isBlank c

variable {s t : Text} {c : Char}

theorem squeeze_append (s : Text) (hc : isBlank c = false) (t : Text) :
    squeeze (s ++ c :: t) = squeeze s ++ c :: squeeze t := by
  induction s with
  | nil => simp [squeeze, hc]
  | cons d r ih =>
    have hhead : (r ++ c :: t).head?.any isBlank = r.head?.any isBlank := by
      cases r <;> simp [hc]
    rw [List.cons_append, squeeze, squeeze, hhead, ih]
    split
    · split <;> rfl
    · rfl

theorem squeeze_of_solid (h : ∀ c ∈ s, isBlank c = false) (t : Text) :
    squeeze (s ++ t) = s ++ squeeze t := by
  induction s with
  | nil => rfl
  | cons c r ih =>
    obtain ⟨hc, hr⟩ := List.forall_mem_cons.mp h
    simp [squeeze, hc, ih hr]

theorem squeeze_gap {gap : Text} (hgap : IsBlankText gap) (hne : gap ≠ []) (ht : BeginsSolid t) :
    squeeze (gap ++ t) = ' ' :: squeeze t := by
  obtain ⟨d, hd, hsolid⟩ := ht
  induction gap with
  | nil => exact absurd rfl hne
  | cons c r ih =>
    obtain ⟨hc, hr⟩ := List.forall_mem_cons.mp hgap
    cases r with
    | nil => simp [squeeze, hc, hd, hsolid]
    | cons e r =>
      have he : isBlank e = true := hr e List.mem_cons_self
      have hrest := ih hr (List.cons_ne_nil e r)
      rw [List.cons_append, squeeze, if_pos hc, List.cons_append, if_pos (by simp [he])]
      exact hrest

theorem squeeze_blank {gap : Text} (hgap : IsBlankText gap) :
    squeeze gap = if gap = [] then [] else [' '] := by
  induction gap with
  | nil => rfl
  | cons c r ih =>
    obtain ⟨hc, hr⟩ := List.forall_mem_cons.mp hgap
    rw [squeeze, if_pos hc, ih hr]
    cases r with
    | nil => rfl
    | cons d r => simp [hr d List.mem_cons_self]

theorem mem_squeeze (h : c ∈ squeeze t) : c = ' ' ∨ c ∈ t := by
  induction t with
  | nil => cases h
  | cons d r ih =>
    rw [squeeze] at h
    split at h
    · split at h
      · exact (ih h).imp_right (List.mem_cons_of_mem d)
      · rcases List.mem_cons.mp h with rfl | h
        · exact .inl rfl
        · exact (ih h).imp_right (List.mem_cons_of_mem d)
    · rcases List.mem_cons.mp h with rfl | h
      · exact .inr List.mem_cons_self
      · exact (ih h).imp_right (List.mem_cons_of_mem d)

@[simp] theorem solid_append (s t : Text) : solid (s ++ t) = solid s ++ solid t :=
  List.filter_append s t

theorem solid_cons (hc : isBlank c = false) (t : Text) : solid (c :: t) = c :: solid t := by
  simp [solid, hc]

theorem solid_squeeze (t : Text) : solid (squeeze t) = solid t := by
  have hspace : isBlank ' ' = true := by decide
  induction t with
  | nil => rfl
  | cons c r ih =>
    unfold solid at ih ⊢
    rw [squeeze]
    cases hc : isBlank c with
    | true =>
      rw [if_pos rfl]
      split <;> simp [hc, hspace, ih]
    | false => simp [hc, ih]

theorem solid_eq_self (h : ∀ c ∈ t, isBlank c = false) : solid t = t :=
  List.filter_eq_self.mpr fun c hc => by simp [h c hc]

theorem Spaced.eq_nil {words : List Text} (h : Spaced words []) : words = [] := by
  generalize ht : ([] : Text) = t at h
  cases h with
  | nil => rfl
  | cons _ hword => simp [hword.ne_nil] at ht

theorem Spaced.squeeze_eq {words : List Text} (h : Spaced words t) (hend : EndsSolid t) :
    squeeze t = (if t.head?.any isBlank then [' '] else []) ++ join [' '] words := by
  induction h with
  | nil hgap =>
    obtain ⟨c, hc, hsolid⟩ := hend
    rw [hgap c (List.mem_of_getLast? hc)] at hsolid
    cases hsolid
  | @cons gap word rest words hgap hword hnext hrest ih =>
    have hbegin : BeginsSolid word := by
      obtain ⟨d, w, rfl⟩ := List.exists_cons_of_ne_nil hword.ne_nil
      exact ⟨d, rfl, hword.solid d List.mem_cons_self⟩
    have hjoin : word ++ squeeze rest = join [' '] (word :: words) := by
      cases rest with
      | nil => rw [hrest.eq_nil, squeeze, List.append_nil, join]
      | cons c r =>
        have hlast : EndsSolid (c :: r) := by
          obtain ⟨d, hd, hsolid⟩ := hend
          rw [List.getLast?_append] at hd
          obtain ⟨e, he⟩ := Option.isSome_iff_exists.mp
            (List.getLast?_isSome.mpr (List.cons_ne_nil c r))
          rw [he, Option.some_or] at hd
          exact ⟨d, he.trans hd, hsolid⟩
        have hfirst : (c :: r).head?.any isBlank = true := by simp [hnext c rfl]
        rw [ih hlast, if_pos hfirst]
        cases words with
        | nil =>
          cases hrest with
          | nil hblank =>
            obtain ⟨d, hd, hsolid⟩ := hlast
            rw [hblank d (List.mem_of_getLast? hd)] at hsolid
            cases hsolid
        | cons next others => rw [join, List.append_assoc]
    cases gap with
    | nil =>
      obtain ⟨d, hd, hsolid⟩ := hbegin
      rw [List.nil_append, squeeze_of_solid hword.solid, hjoin, List.head?_append, hd]
      simp [hsolid]
    | cons c r =>
      have hc : isBlank c = true := hgap c List.mem_cons_self
      rw [List.append_assoc, squeeze_gap hgap (List.cons_ne_nil c r) (hbegin.append rest),
        squeeze_of_solid hword.solid, hjoin]
      simp [hc]

theorem join_words (hbegin : BeginsSolid t) (hend : EndsSolid t) :
    join [' '] (Text.words t) = squeeze t := by
  obtain ⟨c, hc, hsolid⟩ := hbegin
  rw [(spaced_words t).squeeze_eq hend, hc]
  simp [hsolid]

theorem words_append_blank (s : Text) (hc : isBlank c = true) (t : Text) :
    Text.words (s ++ c :: t) = s.words ++ t.words := by
  have hsplit : splitWords (s ++ c :: t) =
      ((splitWords s).1, (splitWords s).2 ++ t.words) := by
    induction s with
    | nil => simp [splitWords, hc, Text.words]
    | cons d r ih =>
      rw [List.cons_append, splitWords, splitWords, ih]
      split
      · unfold consWord
        split <;> rfl
      · rfl
  have hcons : ∀ word words more, consWord word (words ++ more) = consWord word words ++ more := by
    intro word words more
    unfold consWord
    split <;> rfl
  rw [Text.words, hsplit]
  exact hcons _ _ _

theorem words_append_gap {gap : Text} (t : Text) (hgap : IsBlankText gap) :
    Text.words (t ++ gap) = t.words := by
  cases gap with
  | nil => rw [List.append_nil]
  | cons c r =>
    obtain ⟨hc, hr⟩ := List.forall_mem_cons.mp hgap
    have hrest : Text.words r = [] := by simpa using words_blanks_append hr []
    rw [words_append_blank t hc, hrest, List.append_nil]

theorem words_ne_nil (hc : c ∈ t) (hsolid : isBlank c = false) : Text.words t ≠ [] := by
  intro h
  have hspaced := spaced_words t
  rw [h] at hspaced
  cases hspaced with
  | nil hgap =>
    rw [hgap c hc] at hsolid
    cases hsolid

theorem words_of_solid (hne : t ≠ []) (h : ∀ c ∈ t, isBlank c = false) : Text.words t = [t] := by
  simpa using words_word_append (t := []) ⟨hne, h⟩ (by simp)

theorem two_le_length_words (hbegin : BeginsSolid t) (hend : EndsSolid t) (hc : c ∈ t)
    (hblank : isBlank c = true) : 2 ≤ (Text.words t).length := by
  obtain ⟨front, back, rfl⟩ := List.append_of_mem hc
  have hfront : Text.words front ≠ [] := by
    obtain ⟨d, hd, hsolid⟩ := hbegin
    cases front with
    | nil =>
      obtain rfl : c = d := Option.some.inj hd
      rw [hblank] at hsolid
      cases hsolid
    | cons e r => exact words_ne_nil List.mem_cons_self (Option.some.inj hd ▸ hsolid)
  have hback : Text.words back ≠ [] := by
    obtain ⟨d, hd, hsolid⟩ := hend
    cases back with
    | nil =>
      obtain rfl : c = d := by simpa using hd
      rw [hblank] at hsolid
      cases hsolid
    | cons e r =>
      have hlast : (e :: r).getLast? = some d := by simpa using hd
      exact words_ne_nil (List.mem_of_getLast? hlast) hsolid
  have hfront' := List.length_pos_iff.mpr hfront
  have hback' := List.length_pos_iff.mpr hback
  rw [words_append_blank front hblank, List.length_append]
  omega

end Text

namespace Clause

open Text (IsBlankText BeginsSolid EndsSolid squeeze solid)

/-- A literal: a quote, a text without this quote, and the quote again. -/
structure Quoted where
  quote : Char
  inside : Text
  isQuote : Clause.isQuote quote = true
  fresh : quote ∉ inside

inductive Separates : Text → Prop
  | blanks {gap : Text} (hgap : IsBlankText gap) (hne : gap ≠ []) : Separates gap
  | comma {before after : Text} (hbefore : IsBlankText before) (hafter : IsBlankText after) :
      Separates (before ++ ',' :: after)

structure Series where
  first : Quoted
  more : List (Text × Quoted)
  separated : ∀ item ∈ more, Separates item.1

def Quoted.text (q : Quoted) : Text := q.quote :: (q.inside ++ [q.quote])

namespace Series

/-- The further literals, each with what stands before it. -/
def tail (more : List (Text × Quoted)) : Text := more.flatMap fun item => item.1 ++ item.2.text

def text (s : Series) : Text := s.first.text ++ tail s.more

def last (s : Series) : Quoted := (s.more.getLast?.map (·.2)).getD s.first

end Series

def noise (keyword : Text) : Text := if keyword.upper = ("VALUE" : Text) then "IS" else "ARE"

/-- Words that may stand before the first value: those of other clauses, the keyword, and perhaps the
noise word. -/
inductive OpensValues : List Text → Prop
  | plain {earlier : List Text} {keyword : Text} (hearlier : Inert Word.valueWords earlier)
      (hkeyword : Word.isOneOf Word.valueWords keyword = true) : OpensValues (earlier ++ [keyword])
  | noisy {earlier : List Text} {keyword filler : Text} (hearlier : Inert Word.valueWords earlier)
      (hkeyword : Word.isOneOf Word.valueWords keyword = true) (hfiller : filler.upper = noise keyword) :
      OpensValues (earlier ++ [keyword, filler])

inductive EndsInValues (s : Series) : Text → Prop
  | literals {front rest : Text} {blank : Char} (hfront : OpensValues front.words)
      (hblank : isBlank blank = true) (hrest : IsBlankText rest) :
      EndsInValues s (front ++ blank :: (s.text ++ rest))

def valueOf : List Text → Text
  | [literal] => stripQuotes literal
  | content => Text.join [' '] content

theorem Quoted.not_blank (q : Quoted) : isBlank q.quote = false := by
  have h := q.isQuote
  simp only [Clause.isQuote, Bool.or_eq_true, decide_eq_true_eq] at h
  rcases h with h | h <;> rw [h] <;> decide

theorem Quoted.ne_space (q : Quoted) : q.quote ≠ ' ' := by
  intro h
  have hsolid := q.not_blank
  rw [h] at hsolid
  exact absurd hsolid (by decide)

namespace Series

theorem text_eq (s : Series) : ∃ body, s.text = s.first.quote :: (body ++ [s.last.quote]) := by
  unfold text last
  rcases List.eq_nil_or_concat s.more with h | ⟨others, item, h⟩
  · rw [h]
    exact ⟨s.first.inside, by simp [tail, Quoted.text]⟩
  · rw [h, List.concat_eq_append, List.getLast?_concat]
    exact ⟨s.first.inside ++ s.first.quote :: (tail others ++ item.1 ++ item.2.quote :: item.2.inside),
      by simp [tail, Quoted.text]⟩

theorem beginsSolid (s : Series) : BeginsSolid s.text := by
  obtain ⟨body, h⟩ := s.text_eq
  exact ⟨s.first.quote, by rw [h]; rfl, s.first.not_blank⟩

theorem endsSolid (s : Series) : EndsSolid s.text := by
  obtain ⟨body, h⟩ := s.text_eq
  refine ⟨s.last.quote, ?_, s.last.not_blank⟩
  rw [h, ← List.cons_append, List.getLast?_concat]

/-- The first word of the literals begins with a quote, so that it is no noise word. -/
theorem upper_head (s : Series) {keyword word : Text} (h : s.text.words.head? = some word) :
    word.upper ≠ noise keyword := by
  obtain ⟨body, hbody⟩ := s.text_eq
  obtain ⟨w, hw⟩ : ∃ w, word = s.first.quote :: w := by
    rw [hbody, Text.words, Text.splitWords, if_neg (by simp [s.first.not_blank]), Text.consWord,
      if_neg (by simp)] at h
    exact ⟨_, (Option.some.inj h).symm⟩
  have hquote := s.first.isQuote
  simp only [Clause.isQuote, Bool.or_eq_true, decide_eq_true_eq] at hquote
  have hcapital : Case.capital s.first.quote = [s.first.quote] := by
    rcases hquote with h | h <;> rw [h] <;> decide
  have hupper : word.upper = s.first.quote :: Text.upper w := by
    rw [hw, show Text.upper (s.first.quote :: w) = Case.capital s.first.quote ++ Text.upper w from rfl,
      hcapital, List.singleton_append]
  rw [hupper, noise]
  intro hnoise
  have hfirst := congrArg List.head? hnoise
  split at hfirst <;> rcases hquote with h | h <;> rw [h] at hfirst <;> cases hfirst

theorem value_eq {s : Series} {t : Text} (h : EndsInValues s t) :
    value t.words = valueOf s.text.words := by
  obtain @⟨front, rest, blank, hfront, hblank, hrest⟩ := h
  rw [Text.words_append_blank front hblank, Text.words_append_gap s.text hrest]
  have hplain : ∀ keyword, skip (noise keyword) s.text.words = s.text.words :=
    fun keyword => skip_of_ne fun _ hword => s.upper_head hword
  unfold noise at hplain
  generalize front.words = words at hfront
  cases hfront with
  | plain hearlier hkeyword =>
    rw [value, List.append_assoc, find?_inert_append hearlier, List.singleton_append, find?,
      if_pos hkeyword]
    dsimp only
    rw [hplain]
    rfl
  | @noisy earlier keyword filler hearlier hkeyword hfiller =>
    rw [value, List.append_assoc, find?_inert_append hearlier, List.cons_append, find?,
      if_pos hkeyword]
    dsimp only
    unfold noise at hfiller
    rw [List.singleton_append, skip, if_pos hfiller]
    rfl

/-- There is a blank somewhere, or the quotes at the ends are different. -/
def KeepsEnds (s : Series) : Prop :=
  (∃ c ∈ s.text, isBlank c = true) ∨ s.first.quote ≠ s.last.quote

theorem not_keepsEnds_iff (s : Series) : ¬ s.KeepsEnds ↔
    (∀ c ∈ s.text, isBlank c = false) ∧ s.first.quote = s.last.quote := by
  simp only [KeepsEnds, not_or, not_exists, not_and, Bool.not_eq_true, ne_eq, not_not]

theorem value_cases {s : Series} {t : Text} (h : EndsInValues s t) :
    s.KeepsEnds ∧ value t.words = squeeze s.text ∨
      ¬ s.KeepsEnds ∧ value t.words = s.text.tail.dropLast := by
  obtain ⟨body, hbody⟩ := s.text_eq
  rw [value_eq h, not_keepsEnds_iff]
  by_cases hsolid : ∀ c ∈ s.text, isBlank c = false
  · rw [Text.words_of_solid s.beginsSolid.ne_nil hsolid, valueOf]
    by_cases hquotes : s.first.quote = s.last.quote
    · refine .inr ⟨⟨hsolid, hquotes⟩, ?_⟩
      rw [hbody, stripQuotes, s.first.isQuote]
      simp [hquotes]
    · refine .inl ⟨.inr hquotes, ?_⟩
      have hsqueeze : squeeze s.text = s.text := by
        simpa [squeeze] using Text.squeeze_of_solid hsolid []
      rw [hsqueeze, hbody, stripQuotes, s.first.isQuote]
      simp [Ne.symm hquotes]
  · obtain ⟨c, hc, hblank⟩ : ∃ c ∈ s.text, isBlank c = true := by simpa using hsolid
    have hmany := Text.two_le_length_words s.beginsSolid s.endsSolid hc hblank
    refine .inl ⟨.inl ⟨c, hc, hblank⟩, ?_⟩
    rw [← Text.join_words s.beginsSolid s.endsSolid]
    unfold valueOf
    split
    · rename_i literal hone
      rw [hone] at hmany
      exact absurd hmany (by simp)
    · rfl

end Series

/-- Literals with the same quotes and, up to blanks, the same text between them. -/
structure Quoted.Alike (q q' : Quoted) : Prop where
  quote : q.quote = q'.quote
  inside : solid q.inside = solid q'.inside

structure Series.Alike (s s' : Series) : Prop where
  first : s.first.Alike s'.first
  more : List.Forall₂ (fun item item' => solid item.1 = solid item'.1 ∧ item.2.Alike item'.2)
    s.more s'.more

def Series.Keeps (s : Series) (t : Text) : Prop := ∃ s' : Series, s.Alike s' ∧ s'.text = t

/-- What quotes are there for: they enclose a single literal, which loses them, and tell the literals
of a list apart, which keep them. -/
structure Series.Serves (s : Series) (t : Text) : Prop where
  single : s.more = [] → t = s.first.inside
  several : s.more ≠ [] → s.Keeps t

/-- A single literal without blanks, or several that have a blank among them or different quotes at
their ends. -/
structure Series.IsPlain (s : Series) : Prop where
  single : s.more = [] → ∀ c ∈ s.first.inside, isBlank c = false
  several : s.more ≠ [] → s.KeepsEnds

theorem Quoted.Alike.solid_text {q q' : Quoted} (h : q.Alike q') : solid q.text = solid q'.text := by
  rw [Quoted.text, Quoted.text, Text.solid_cons q.not_blank, Text.solid_cons q'.not_blank,
    Text.solid_append, Text.solid_append, h.inside, h.quote]

theorem Series.Alike.solid_text {s s' : Series} (h : s.Alike s') : solid s.text = solid s'.text := by
  have htail : ∀ {more more' : List (Text × Quoted)},
      List.Forall₂ (fun item item' => solid item.1 = solid item'.1 ∧ item.2.Alike item'.2) more more' →
      solid (Series.tail more) = solid (Series.tail more') := by
    intro more more' hmore
    induction hmore with
    | nil => rfl
    | @cons item item' more more' hitem _ ih =>
      unfold Series.tail at ih ⊢
      rw [List.flatMap_cons, List.flatMap_cons, Text.solid_append, Text.solid_append,
        Text.solid_append, Text.solid_append, hitem.1, hitem.2.solid_text, ih]
  rw [Series.text, Series.text, Text.solid_append, Text.solid_append, h.first.solid_text,
    htail h.more]

def Quoted.squeezed (q : Quoted) : Quoted where
  quote := q.quote
  inside := squeeze q.inside
  isQuote := q.isQuote
  fresh h := (Text.mem_squeeze h).elim q.ne_space q.fresh

theorem Separates.squeeze {gap : Text} (h : Separates gap) : Separates (squeeze gap) := by
  have hspace : isBlank ' ' = true := by decide
  have hblank : ∀ {gap : Text}, IsBlankText gap → IsBlankText (Text.squeeze gap) := by
    intro gap hgap
    rw [Text.squeeze_blank hgap]
    split <;> simp [IsBlankText, hspace]
  cases h with
  | blanks hgap hne =>
    rw [Text.squeeze_blank hgap, if_neg hne]
    exact .blanks (by simp [IsBlankText, hspace]) (by simp)
  | comma hbefore hafter =>
    rw [Text.squeeze_append _ (by decide)]
    exact .comma (hblank hbefore) (hblank hafter)

namespace Series

def squeezed (s : Series) : Series where
  first := s.first.squeezed
  more := s.more.map fun item => (squeeze item.1, item.2.squeezed)
  separated := by
    intro item hitem
    obtain ⟨item, h, rfl⟩ := List.mem_map.mp hitem
    exact (s.separated item h).squeeze

theorem squeeze_literal (q : Quoted) (rest : Text) :
    squeeze (q.text ++ rest) = q.squeezed.text ++ squeeze rest := by
  have htext : q.text ++ rest = q.quote :: (q.inside ++ q.quote :: rest) := by simp [Quoted.text]
  have hbegin := Text.squeeze_append [] q.not_blank (q.inside ++ q.quote :: rest)
  rw [List.nil_append, squeeze, List.nil_append] at hbegin
  rw [htext, hbegin, Text.squeeze_append _ q.not_blank]
  simp [Quoted.text, Quoted.squeezed]

theorem squeeze_tail (more : List (Text × Quoted)) : squeeze (tail more) =
    tail (more.map fun item => (squeeze item.1, item.2.squeezed)) := by
  induction more with
  | nil => rfl
  | cons item more ih =>
    have hgap : ∀ rest, squeeze (item.1 ++ (item.2.text ++ rest)) =
        squeeze item.1 ++ squeeze (item.2.text ++ rest) := by
      intro rest
      have hbegin := Text.squeeze_append [] item.2.not_blank (item.2.inside ++ item.2.quote :: rest)
      have htext : item.2.text ++ rest = item.2.quote :: (item.2.inside ++ item.2.quote :: rest) := by
        simp [Quoted.text]
      rw [htext, Text.squeeze_append _ item.2.not_blank]
      simpa [squeeze] using hbegin.symm
    unfold tail at ih ⊢
    rw [List.flatMap_cons, List.append_assoc, hgap, squeeze_literal, ih]
    simp

theorem text_squeezed (s : Series) : s.squeezed.text = squeeze s.text := by
  rw [text, text, squeeze_literal, squeeze_tail]
  rfl

theorem alike_squeezed (s : Series) : s.Alike s.squeezed := by
  refine ⟨⟨rfl, (Text.solid_squeeze _).symm⟩, ?_⟩
  unfold squeezed
  dsimp only
  generalize s.more = more
  induction more with
  | nil => exact .nil
  | cons item more ih =>
    exact .cons ⟨(Text.solid_squeeze _).symm, rfl, (Text.solid_squeeze _).symm⟩ ih

theorem not_keeps (s : Series) (hsolid : ∀ c ∈ s.text, isBlank c = false) :
    ¬ s.Keeps s.text.tail.dropLast := by
  rintro ⟨s', halike, htext⟩
  obtain ⟨body, hbody⟩ := s.text_eq
  have hkept : solid s.text.tail.dropLast = s.text := by
    rw [← htext, ← halike.solid_text, Text.solid_eq_self hsolid]
  have hlength := congrArg List.length hkept
  have hle : (solid s.text.tail.dropLast).length ≤ s.text.tail.dropLast.length :=
    List.length_filter_le _ _
  rw [hlength, hbody, List.tail_cons, List.dropLast_concat, List.length_cons, List.length_append] at hle
  omega

theorem keepsEnds_single {s : Series} (hmore : s.more = []) :
    s.KeepsEnds ↔ ∃ c ∈ s.first.inside, isBlank c = true := by
  have htext : s.text = s.first.quote :: (s.first.inside ++ [s.first.quote]) := by
    simp [text, hmore, tail, Quoted.text]
  have hlast : s.last = s.first := by simp [last, hmore]
  rw [KeepsEnds, hlast, or_iff_left (not_not.mpr rfl), htext]
  constructor
  · rintro ⟨c, hc, hblank⟩
    rw [List.mem_cons, List.mem_append, List.mem_singleton] at hc
    have hsolid : c ≠ s.first.quote := by
      rintro rfl
      rw [s.first.not_blank] at hblank
      cases hblank
    exact ⟨c, (hc.resolve_left hsolid).resolve_right hsolid, hblank⟩
  · rintro ⟨c, hc, hblank⟩
    exact ⟨c, by simp [hc], hblank⟩

theorem squeeze_ne_inside (s : Series) : squeeze s.text ≠ s.first.inside := by
  obtain ⟨body, hbody⟩ := s.squeezed.text_eq
  intro hvalue
  refine s.first.fresh ?_
  rw [← hvalue, ← text_squeezed, hbody]
  exact List.mem_cons_self

end Series

/-- The values of an entry are the text of their literals with single blanks, except that without
blanks the quotes at the ends are taken away if they are alike. So the quotes serve their purpose
exactly in the plain cases. -/
theorem value_serves_iff {s : Series} {t : Text} (h : EndsInValues s t) :
    (s.KeepsEnds → value t.words = squeeze s.text) ∧
    (¬ s.KeepsEnds → value t.words = s.text.tail.dropLast) ∧
    (s.Serves (value t.words) ↔ s.IsPlain) := by
  rcases Series.value_cases h with ⟨hkept, hvalue⟩ | ⟨htaken, hvalue⟩
  · refine ⟨fun _ => hvalue, fun hnot => absurd hkept hnot, ?_⟩
    rw [hvalue]
    by_cases hmore : s.more = []
    · refine iff_of_false (fun hserves => s.squeeze_ne_inside (hserves.single hmore)) fun hplain => ?_
      obtain ⟨c, hc, hblank⟩ := (Series.keepsEnds_single hmore).mp hkept
      rw [hplain.single hmore c hc] at hblank
      cases hblank
    · exact iff_of_true ⟨fun hsingle => absurd hsingle hmore,
        fun _ => ⟨s.squeezed, s.alike_squeezed, s.text_squeezed⟩⟩
        ⟨fun hsingle => absurd hsingle hmore, fun _ => hkept⟩
  · refine ⟨fun hkept => absurd hkept htaken, fun _ => hvalue, ?_⟩
    rw [hvalue]
    by_cases hmore : s.more = []
    · have hinside : s.text.tail.dropLast = s.first.inside := by
        simp [Series.text, hmore, Series.tail, Quoted.text]
      have hsolid : ∀ c ∈ s.first.inside, isBlank c = false := by
        simpa using mt (Series.keepsEnds_single hmore).mpr htaken
      exact iff_of_true ⟨fun _ => hinside, fun hmany => absurd hmore hmany⟩
        ⟨fun _ => hsolid, fun hmany => absurd hmore hmany⟩
    · exact iff_of_false
        (fun hserves => s.not_keeps ((s.not_keepsEnds_iff).mp htaken).1 (hserves.several hmore))
        fun hplain => htaken (hplain.several hmore)

namespace Series

def codes : Series where
  first := ⟨'\'', "A", by decide, by decide⟩
  more := [([','], ⟨'\'', "B", by decide, by decide⟩)]
  separated := by
    intro item hitem
    have hcomma : Separates ([] ++ ',' :: []) := .comma Text.isBlankText_nil Text.isBlankText_nil
    rw [List.mem_singleton.mp hitem]
    exact hcomma

end Series

/-- Codes with a comma but no blank between them lose the outer quotes. -/
theorem value_serves_codes :
    EndsInValues Series.codes "88 B VALUES ARE 'A','B'" ∧
      value (Text.words "88 B VALUES ARE 'A','B'") = "A','B" ∧
      ¬ Series.codes.Serves (value (Text.words "88 B VALUES ARE 'A','B'")) := by
  have hfront : OpensValues (Text.words "88 B VALUES ARE") := by
    have hwords : Text.words "88 B VALUES ARE" = [("88" : Text), "B"] ++ [("VALUES" : Text), "ARE"] := by
      decide
    rw [hwords]
    exact .noisy (by decide) (by decide) (by decide)
  have hblank : isBlank ' ' = true := by decide
  have hends : EndsInValues Series.codes ("88 B VALUES ARE" ++ ' ' :: (Series.codes.text ++ [])) :=
    .literals hfront hblank Text.isBlankText_nil
  have htaken : ¬ Series.codes.KeepsEnds :=
    Series.codes.not_keepsEnds_iff.mpr ⟨by decide, by decide⟩
  obtain ⟨-, hvalue, hserves⟩ := value_serves_iff hends
  exact ⟨hends, hvalue htaken, fun h => htaken ((hserves.mp h).several (by decide))⟩

/-- A single literal with a blank in it keeps its quotes. -/
example : value (Text.words "05 A VALUE 'A B'") = "'A B'" := by decide

end Clause
end Copybook
