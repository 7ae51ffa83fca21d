import Copybook.Sentence

/-!
Quoted literals. A text is closed when it is made of literals that end and of characters that are no
quotes; it is open when a quote that follows such a text has no partner. The scanner of literals
tells the two kinds apart, wherever a text is cut, and begins anew behind a closed one. -/
namespace Copybook
namespace Literal

/-- Texts in which every literal ends. -/
inductive Closed : Text → Prop
  | nil : Closed []
  | plain {c : Char} {t : Text} : Clause.isQuote c = false → Closed t → Closed (c :: t)
  | literal {quote : Char} {inside t : Text} : Clause.isQuote quote = true → quote ∉ inside →
      Closed t → Closed (quote :: (inside ++ quote :: t))

/-- Texts that end inside a literal that `quote` has opened. -/
def Open (quote : Char) (t : Text) : Prop :=
  ∃ before inside : Text, Closed before ∧ Clause.isQuote quote = true ∧ quote ∉ inside ∧
    t = before ++ quote :: inside

open Sentence (openQuote hasOpenLiteral)

theorem openQuote_append (quote : Option Char) (s t : Text) :
    openQuote quote (s ++ t) = openQuote (openQuote quote s) t := by
  induction s generalizing quote with
  | nil => simp [openQuote]
  | cons c r ih => cases quote <;> simp [openQuote, ih]

theorem openQuote_inside {quote : Char} {inside : Text} (h : quote ∉ inside) :
    openQuote (some quote) inside = some quote := by
  induction inside with
  | nil => rfl
  | cons c r ih =>
    have hc : c ≠ quote := fun he => h (by simp [he])
    have hr : quote ∉ r := fun hm => h (by simp [hm])
    simp [openQuote, hc, ih hr]

theorem openQuote_of_closed {t : Text} (h : Closed t) : openQuote none t = none := by
  induction h with
  | nil => rfl
  | plain hc _ ih => simpa [openQuote, hc] using ih
  | @literal quote inside t hq hi _ ih =>
    have hs : openQuote (some quote) (inside ++ quote :: t) = openQuote none t := by
      rw [openQuote_append, openQuote_inside hi]
      simp [openQuote]
    simpa [openQuote, hq, hs] using ih

theorem openQuote_of_open {quote : Char} {t : Text} (h : Open quote t) :
    openQuote none t = some quote := by
  obtain ⟨before, inside, hb, hq, hi, rfl⟩ := h
  rw [openQuote_append, openQuote_of_closed hb]
  simpa [openQuote, hq] using openQuote_inside hi

/-- Where no literal is open at the end, every literal has ended; one that was open before has ended
at its own quote. -/
theorem closed_of_openQuote (t : Text) :
    (openQuote none t = none → Closed t) ∧
      ∀ quote, openQuote (some quote) t = none →
        ∃ inside rest : Text, t = inside ++ quote :: rest ∧ quote ∉ inside ∧ Closed rest := by
  induction t with
  | nil => exact ⟨fun _ => .nil, fun quote h => by simp [openQuote] at h⟩
  | cons c r ih =>
    constructor
    · intro h
      cases hc : Clause.isQuote c with
      | false =>
        have hrest : openQuote none r = none := by simpa [openQuote, hc] using h
        exact .plain hc (ih.1 hrest)
      | true =>
        have hrest : openQuote (some c) r = none := by simpa [openQuote, hc] using h
        obtain ⟨inside, rest, rfl, hi, hr⟩ := ih.2 c hrest
        exact .literal hc hi hr
    · intro quote h
      by_cases hc : c = quote
      · subst hc
        have hrest : openQuote none r = none := by simpa [openQuote] using h
        exact ⟨[], r, rfl, by simp, ih.1 hrest⟩
      · have hrest : openQuote (some quote) r = none := by simpa [openQuote, hc] using h
        obtain ⟨inside, rest, rfl, hi, hr⟩ := ih.2 quote hrest
        exact ⟨c :: inside, rest, rfl, by simp [hi, Ne.symm hc], hr⟩

/-- Where a literal is open at the end, it has begun behind a closed text; it may be the one that was
open before. -/
theorem open_of_openQuote (t : Text) {quote : Char} :
    (openQuote none t = some quote → Open quote t) ∧
      ∀ earlier, openQuote (some earlier) t = some quote → (earlier = quote ∧ quote ∉ t) ∨
        ∃ inside rest : Text, t = inside ++ earlier :: rest ∧ earlier ∉ inside ∧
          Open quote rest := by
  induction t with
  | nil => simp [openQuote]
  | cons c r ih =>
    constructor
    · intro h
      cases hc : Clause.isQuote c with
      | false =>
        have hrest : openQuote none r = some quote := by simpa [openQuote, hc] using h
        obtain ⟨before, inside, hb, hq, hi, rfl⟩ := ih.1 hrest
        exact ⟨c :: before, inside, .plain hc hb, hq, hi, rfl⟩
      | true =>
        have hrest : openQuote (some c) r = some quote := by simpa [openQuote, hc] using h
        rcases ih.2 c hrest with ⟨rfl, hr⟩ | ⟨inside, rest, rfl, hi, hr⟩
        · exact ⟨[], r, .nil, hc, hr, rfl⟩
        · obtain ⟨before, tail, hb, hq, ht, rfl⟩ := hr
          exact ⟨c :: (inside ++ c :: before), tail, .literal hc hi hb, hq, ht, by simp⟩
    · intro earlier h
      by_cases hc : c = earlier
      · subst hc
        have hrest : openQuote none r = some quote := by simpa [openQuote] using h
        exact .inr ⟨[], r, rfl, by simp, ih.1 hrest⟩
      · have hrest : openQuote (some earlier) r = some quote := by simpa [openQuote, hc] using h
        rcases ih.2 earlier hrest with ⟨rfl, hr⟩ | ⟨inside, rest, rfl, hi, hr⟩
        · exact .inl ⟨rfl, by simp [hr, Ne.symm hc]⟩
        · exact .inr ⟨c :: inside, rest, rfl, by simp [hi, Ne.symm hc], hr⟩

theorem openQuote_eq_none_iff {t : Text} : openQuote none t = none ↔ Closed t :=
  ⟨(closed_of_openQuote t).1, openQuote_of_closed⟩

theorem openQuote_eq_some_iff {t : Text} {quote : Char} :
    openQuote none t = some quote ↔ Open quote t :=
  ⟨(open_of_openQuote t).1, openQuote_of_open⟩

instance (t : Text) : Decidable (Closed t) := decidable_of_iff _ openQuote_eq_none_iff

instance (quote : Char) (t : Text) : Decidable (Open quote t) :=
  decidable_of_iff _ openQuote_eq_some_iff

/-- What a closed text is put together from: characters that are no quotes, and literals with both
their quotes. -/
inductive Piece : Text → Prop
  | plain {c : Char} : Clause.isQuote c = false → Piece [c]
  | literal {quote : Char} {inside : Text} : Clause.isQuote quote = true → quote ∉ inside →
      Piece (quote :: (inside ++ [quote]))

theorem Piece.closed_append {piece t : Text} (hpiece : Piece piece) (ht : Closed t) :
    Closed (piece ++ t) := by
  cases hpiece with
  | plain hc => exact .plain hc ht
  | @literal quote inside hquote hinside =>
    rw [List.cons_append, List.append_assoc]
    exact .literal hquote hinside ht

theorem closed_iff_pieces {t : Text} :
    Closed t ↔ ∃ pieces : List Text, (∀ piece ∈ pieces, Piece piece) ∧ pieces.flatten = t := by
  constructor
  · intro h
    induction h with
    | nil => exact ⟨[], List.forall_mem_nil _, rfl⟩
    | @plain c t hc _ ih =>
      obtain ⟨pieces, hpieces, rfl⟩ := ih
      exact ⟨[c] :: pieces, List.forall_mem_cons.mpr ⟨.plain hc, hpieces⟩, rfl⟩
    | @literal quote inside t hquote hinside _ ih =>
      obtain ⟨pieces, hpieces, rfl⟩ := ih
      refine ⟨(quote :: (inside ++ [quote])) :: pieces,
        List.forall_mem_cons.mpr ⟨.literal hquote hinside, hpieces⟩, ?_⟩
      simp
  · rintro ⟨pieces, hpieces, rfl⟩
    induction pieces with
    | nil => exact .nil
    | cons piece rest ih =>
      obtain ⟨hpiece, hrest⟩ := List.forall_mem_cons.mp hpieces
      exact hpiece.closed_append (ih hrest)

theorem hasOpenLiteral_eq_false_iff {t : Text} : hasOpenLiteral t = false ↔ Closed t := by
  rw [← openQuote_eq_none_iff, hasOpenLiteral, Option.isSome_eq_false_iff, Option.isNone_iff_eq_none]

/-- The scanner finds no open literal exactly in the texts that are put together from characters that
are no quotes and from literals with both their quotes, and behind such a text it begins anew. -/
theorem hasOpenLiteral_pieces :
    (∀ t, hasOpenLiteral t = false ↔
      ∃ pieces : List Text, (∀ piece ∈ pieces, Piece piece) ∧ pieces.flatten = t) ∧
    ∀ s t, hasOpenLiteral s = false → hasOpenLiteral (s ++ t) = hasOpenLiteral t := by
  refine ⟨fun t => hasOpenLiteral_eq_false_iff.trans closed_iff_pieces, fun s t hs => ?_⟩
  have hclosed : openQuote none s = none :=
    openQuote_eq_none_iff.mpr (hasOpenLiteral_eq_false_iff.mp hs)
  rw [hasOpenLiteral, openQuote_append, hclosed, hasOpenLiteral]

/-- Quotes that are doubled or stand in a literal with the other quote leave nothing open, and so the
last quote opens a literal. -/
theorem hasOpenLiteral_pieces_doubled :
    hasOpenLiteral "VALUE 'IT''S' \"'\"" = false ∧ hasOpenLiteral " 'A" = true ∧
      hasOpenLiteral ("VALUE 'IT''S' \"'\"" ++ " 'A") = true := by
  have hclosed : hasOpenLiteral "VALUE 'IT''S' \"'\"" = false := by decide
  have hopen : hasOpenLiteral " 'A" = true := by decide
  exact ⟨hclosed, hopen, (hasOpenLiteral_pieces.2 _ _ hclosed).trans hopen⟩

end Literal
end Copybook
