import Copybook.Proofs.Arithmetic
import Copybook.Proofs.Rule
import Copybook.Proofs.Text
import Mathlib.Data.List.Infix

/-!
Rules and their spans. A rule that is read as text with expressions between marks is replaced by the
same text with the values of the expressions, in which no mark begins a span any more; every other rule
is refused for the first span that has no end or holds no expression. -/
namespace Copybook
namespace Rule

def opening : Text := ['[', '!']

def closing : Text := ['!', ']']

/-- A span that holds an expression, with the text behind it up to the next span. -/
structure Span where
  inside : Text
  expression : Expression
  behind : Text
  inside_closing : ¬ closing <:+: inside
  expression_text : expression.text = inside.trim
  behind_opening : ¬ opening <:+: behind

namespace Span

def text (s : Span) : Text := opening ++ s.inside ++ closing ++ s.behind

def result (s : Span) : Text := Text.ofInt s.expression.value ++ s.behind

def pieces (s : Span) : List Piece := .span s.inside :: s.behind.map .plain

end Span

/-- A way to read a text: what stands before its first span, and the spans. -/
structure Reading where
  front : Text
  spans : List Span
  front_opening : ¬ opening <:+: front

namespace Reading

def text (r : Reading) : Text := r.front ++ r.spans.flatMap Span.text

def result (r : Reading) : Text := r.front ++ r.spans.flatMap Span.result

def pieces (r : Reading) : List Piece := r.front.map .plain ++ r.spans.flatMap Span.pieces

def IsBounded (r : Reading) : Prop := ∀ s ∈ r.spans, s.expression.IsBounded

end Reading

/-- Rules in which no span that is read has numbers beyond the limits. -/
def WithinLimits (rule : Text) : Prop := ∀ r : Reading, r.text <+: rule → r.IsBounded

/-- How a rule is refused: its first span that is not read has no end, or holds no expression. -/
inductive Refused (rule : Text) : Failure → Prop
  | unclosed (r : Reading) {rest : Text} : rule = r.text ++ opening ++ rest → ¬ closing <:+: rest →
      Refused rule (.problem (.rule ("Invalid rule \"" ++ rule ++ "\"") (some rule) none))
  | invalid (r : Reading) {inside behind : Text} :
      rule = r.text ++ opening ++ inside ++ closing ++ behind → ¬ closing <:+: inside →
      (∀ e : Expression, e.text ≠ inside.trim) →
      Refused rule (.problem (.rule ("Invalid expression \"" ++ inside.trim ++ "\" in rule \"" ++
        rule ++ "\"") (some rule) (some inside.trim)))

/-! ### Marks in texts -/

section marks

variable {x y : Char} {c : Char} {t u : Text}

/-- A mark of two characters cannot begin in a text without it and go on behind the text, where there
is nothing or another mark. -/
theorem not_isPrefix_append (hne : x ≠ y) (ht : ¬ [x, y] <:+: c :: t)
    (hu : u = [] ∨ [x, y] <+: u) : ¬ [x, y] <+: c :: (t ++ u) := by
  rintro ⟨more, hmore⟩
  obtain ⟨rfl, hrest⟩ := List.cons.inj hmore
  cases t with
  | nil =>
    rcases hu with rfl | ⟨v, rfl⟩
    · cases hrest
    · exact hne (List.cons.inj hrest).1.symm
  | cons d t =>
    obtain ⟨rfl, -⟩ := List.cons.inj hrest
    exact ht (List.IsPrefix.isInfix ⟨t, rfl⟩)

theorem isInfix_append (h : [x, y] <:+: t ++ u) :
    [x, y] <:+: t ∨ [x, y] <:+: u ∨ t.getLast? = some x ∧ u.head? = some y := by
  induction t with
  | nil => exact .inr (.inl h)
  | cons c t ih =>
    rw [List.cons_append, List.infix_cons_iff] at h
    rcases h with ⟨more, hmore⟩ | h
    · obtain ⟨rfl, hrest⟩ := List.cons.inj hmore
      cases t with
      | nil =>
        rw [List.nil_append] at hrest
        exact .inr (.inr ⟨rfl, by rw [← hrest]; rfl⟩)
      | cons d t =>
        obtain ⟨rfl, -⟩ := List.cons.inj hrest
        exact .inl (List.IsPrefix.isInfix ⟨t, rfl⟩)
    · rcases ih h with h | h | ⟨hlast, hhead⟩
      · exact .inl (h.trans (List.suffix_cons c t).isInfix)
      · exact .inr (.inl h)
      · exact .inr (.inr ⟨by simp [List.getLast?_cons, hlast], hhead⟩)

/-- A text without the characters of a mark keeps apart what stands around it. -/
theorem not_isInfix_between {v : Text} (hv : v ≠ []) (hx : x ∉ v) (hy : y ∉ v)
    (ht : ¬ [x, y] <:+: t) (hu : ¬ [x, y] <:+: u) : ¬ [x, y] <:+: t ++ (v ++ u) := by
  intro h
  have hhead : (v ++ u).head? ≠ some y := by
    intro hhead
    rw [List.head?_append_of_ne_nil v hv] at hhead
    exact hy (List.mem_of_head? hhead)
  rcases isInfix_append h with h | h | ⟨-, h⟩
  · exact ht h
  · rcases isInfix_append h with h | h | ⟨h, -⟩
    · exact hx (h.subset List.mem_cons_self)
    · exact hu h
    · exact hx (List.mem_of_getLast? h)
  · exact hhead h

theorem exists_first (mark : Text) (hmark : mark ≠ []) (t : Text) :
    ¬ mark <:+: t ∨ ∃ before behind, t = before ++ mark ++ behind ∧ ¬ mark <:+: before := by
  induction t with
  | nil => exact .inl fun h => hmark (List.infix_nil.mp h)
  | cons c t ih =>
    by_cases hprefix : mark <+: c :: t
    · obtain ⟨behind, hbehind⟩ := hprefix
      exact .inr ⟨[], behind, by rw [List.nil_append, hbehind], fun h => hmark (List.infix_nil.mp h)⟩
    · rcases ih with hnone | ⟨before, behind, rfl, hbefore⟩
      · left
        rw [List.infix_cons_iff]
        rintro (h | h)
        · exact hprefix h
        · exact hnone h
      · refine .inr ⟨c :: before, behind, rfl, ?_⟩
        rw [List.infix_cons_iff]
        rintro (h | h)
        · apply hprefix
          have hlonger : c :: before <+: c :: (before ++ mark ++ behind) :=
            ⟨mark ++ behind, by rw [List.cons_append, List.append_assoc]⟩
          exact h.trans hlonger
        · exact hbefore h

end marks

/-! ### Scanning -/

theorem piecesFrom_plain {c : Char} {t : Text} (h : ¬ opening <+: c :: t) :
    pieces (c :: t) = .plain c :: pieces t := by
  rw [pieces, piecesFrom]
  · rfl
  · rintro r rfl rfl
    exact h ⟨r, rfl⟩

theorem piecesFrom_inside {c : Char} {t : Text} (h : ¬ closing <+: c :: t) (held : Text) :
    piecesFrom (some held) (c :: t) = piecesFrom (some (c :: held)) t := by
  rw [piecesFrom]
  rintro r rfl rfl
  exact h ⟨r, rfl⟩

theorem pieces_append {t u : Text} (ht : ¬ opening <:+: t) (hu : u = [] ∨ opening <+: u) :
    pieces (t ++ u) = t.map .plain ++ pieces u := by
  induction t with
  | nil => rfl
  | cons c t ih =>
    have hlater : ¬ opening <:+: t := fun h => ht (h.trans (List.suffix_cons c t).isInfix)
    have hplain : ¬ opening <+: c :: (t ++ u) := not_isPrefix_append (by decide) ht hu
    rw [List.cons_append, piecesFrom_plain hplain, ih hlater]
    rfl

theorem piecesFrom_closed {inside : Text} (h : ¬ closing <:+: inside) (held u : Text) :
    piecesFrom (some held) (inside ++ (closing ++ u)) =
      .span (held.reverse ++ inside) :: pieces u := by
  induction inside generalizing held with
  | nil =>
    rw [List.append_nil]
    rfl
  | cons c inside ih =>
    have hlater : ¬ closing <:+: inside := fun hc => h (hc.trans (List.suffix_cons c inside).isInfix)
    have hinside : ¬ closing <+: c :: (inside ++ (closing ++ u)) :=
      not_isPrefix_append (by decide) h (.inr ⟨u, rfl⟩)
    rw [List.cons_append, piecesFrom_inside hinside, ih hlater, List.reverse_cons,
      List.append_assoc]
    rfl

theorem piecesFrom_unclosed {rest : Text} (h : ¬ closing <:+: rest) (held : Text) :
    piecesFrom (some held) rest = [.unclosed] := by
  induction rest generalizing held with
  | nil => rfl
  | cons c rest ih =>
    have hlater : ¬ closing <:+: rest := fun hc => h (hc.trans (List.suffix_cons c rest).isInfix)
    have hinside : ¬ closing <+: c :: rest := fun hc => h hc.isInfix
    rw [piecesFrom_inside hinside, ih hlater]

theorem pieces_opening (t : Text) : pieces (opening ++ t) = piecesFrom (some []) t := rfl

theorem spans_open (spans : List Span) {u : Text} (hu : u = [] ∨ opening <+: u) :
    spans.flatMap Span.text ++ u = [] ∨ opening <+: spans.flatMap Span.text ++ u := by
  cases spans with
  | nil => exact hu
  | cons s spans =>
    refine .inr ⟨s.inside ++ closing ++ s.behind ++ (spans.flatMap Span.text ++ u), ?_⟩
    simp [Span.text]

theorem pieces_spans (spans : List Span) {u : Text} (hu : u = [] ∨ opening <+: u) :
    pieces (spans.flatMap Span.text ++ u) = spans.flatMap Span.pieces ++ pieces u := by
  induction spans with
  | nil => rfl
  | cons s spans ih =>
    have htext : (s :: spans).flatMap Span.text ++ u = opening ++
        (s.inside ++ (closing ++ (s.behind ++ (spans.flatMap Span.text ++ u)))) := by
      simp [Span.text]
    rw [htext, pieces_opening, piecesFrom_closed s.inside_closing,
      pieces_append s.behind_opening (spans_open spans hu), ih]
    simp [Span.pieces]

theorem pieces_reading (r : Reading) {u : Text} (hu : u = [] ∨ opening <+: u) :
    pieces (r.text ++ u) = r.pieces ++ pieces u := by
  rw [Reading.text, List.append_assoc, pieces_append r.front_opening (spans_open r.spans hu),
    pieces_spans _ hu, Reading.pieces, List.append_assoc]

/-! ### Putting together -/

theorem assemble_plain (rule t : Text) (rest : List Piece) :
    assemble rule (t.map .plain ++ rest) = (assemble rule rest).map (t ++ ·) := by
  induction t with
  | nil => cases h : assemble rule rest <;> simp [h, Except.map]
  | cons c t ih =>
    rw [List.map_cons, List.cons_append, assemble, ih]
    cases assemble rule rest <;> rfl

theorem assemble_spans (rule : Text) {spans : List Span}
    (h : ∀ s ∈ spans, s.expression.IsBounded) (rest : List Piece) :
    assemble rule (spans.flatMap Span.pieces ++ rest) =
      (assemble rule rest).map (spans.flatMap Span.result ++ ·) := by
  induction spans with
  | nil => cases h : assemble rule rest <;> simp [h, Except.map]
  | cons s spans ih =>
    obtain ⟨hfirst, hlater⟩ := List.forall_mem_cons.mp h
    have hvalid : isValid s.inside.trim = true := (isValid_iff _).mpr ⟨_, s.expression_text⟩
    have hvalue := compute_text hfirst
    rw [s.expression_text] at hvalue
    rw [List.flatMap_cons, Span.pieces, List.cons_append, List.cons_append, List.append_assoc,
      assemble, assemble_plain, ih hlater]
    simp only [hvalid, hvalue, if_true]
    cases assemble rule rest <;> simp [Except.map, Span.result]

theorem assemble_reading (rule : Text) {r : Reading} (h : r.IsBounded) (rest : List Piece) :
    assemble rule (r.pieces ++ rest) = (assemble rule rest).map (r.result ++ ·) := by
  rw [Reading.pieces, List.append_assoc, assemble_plain, assemble_spans rule h]
  cases assemble rule rest <;> simp [Except.map, Reading.result]

theorem process_plain {t : Text} (h : ¬ opening <:+: t) : process t = .ok t := by
  have hpieces := pieces_append h (.inl rfl)
  rw [List.append_nil] at hpieces
  rw [process, hpieces, assemble_plain]
  simp [pieces, piecesFrom, assemble, Except.map]

theorem ofInt_spec (n : Int) : Text.ofInt n ≠ [] ∧ '[' ∉ Text.ofInt n ∧ '!' ∉ Text.ofInt n := by
  have hdigits : ∀ (k : Nat) (c : Char), c ∈ Text.ofNat k → c.isDigit = true := fun k c hc =>
    Nat.isDigit_of_mem_toDigits (by decide) (by decide) hc
  have hopen : ∀ k, '[' ∉ Text.ofNat k := fun k hc => absurd (hdigits k _ hc) (by decide)
  have hbang : ∀ k, '!' ∉ Text.ofNat k := fun k hc => absurd (hdigits k _ hc) (by decide)
  cases n with
  | ofNat k =>
    exact ⟨List.length_pos_iff.mp (Nat.length_toDigits_pos), hopen k, hbang k⟩
  | negSucc k =>
    refine ⟨List.cons_ne_nil _ _, ?_, ?_⟩
    · rw [Text.ofInt, List.mem_cons, not_or]
      exact ⟨by decide, hopen _⟩
    · rw [Text.ofInt, List.mem_cons, not_or]
      exact ⟨by decide, hbang _⟩

/-- Between two texts in which no span begins a number does not make one begin. -/
theorem not_opening_results {front : Text} (h : ¬ opening <:+: front) (spans : List Span) :
    ¬ opening <:+: front ++ spans.flatMap Span.result := by
  induction spans generalizing front with
  | nil => rwa [List.flatMap_nil, List.append_nil]
  | cons s spans ih =>
    obtain ⟨hne, hopen, hbang⟩ := ofInt_spec s.expression.value
    have hnext : ¬ opening <:+: front ++ s.result :=
      not_isInfix_between hne hopen hbang h s.behind_opening
    rw [List.flatMap_cons, ← List.append_assoc]
    exact ih hnext

/-! ### Readings -/

/-- What keeps a text behind a reading from being read. -/
inductive Leaves : Text → Prop
  | nothing : Leaves []
  | unclosed {rest : Text} : ¬ closing <:+: rest → Leaves (opening ++ rest)
  | invalid {inside behind : Text} : ¬ closing <:+: inside →
      (∀ e : Expression, e.text ≠ inside.trim) → Leaves (opening ++ inside ++ closing ++ behind)

theorem exists_reading (t : Text) :
    ∃ (r : Reading) (rest : Text), t = r.text ++ rest ∧ Leaves rest := by
  -- By induction on the length: behind a span that is read there is a shorter text.
  induction hlength : t.length using Nat.strongRecOn generalizing t with
  | ind n ih =>
    subst hlength
    rcases exists_first opening (by decide) t with hplain | ⟨front, later, rfl, hfront⟩
    · exact ⟨⟨t, [], hplain⟩, [], by simp [Reading.text], .nothing⟩
    rcases exists_first closing (by decide) later with hopen | ⟨inside, behind, rfl, hinside⟩
    · exact ⟨⟨front, [], hfront⟩, opening ++ later, by simp [Reading.text], .unclosed hopen⟩
    by_cases hvalid : ∃ e : Expression, e.text = inside.trim
    · obtain ⟨e, he⟩ := hvalid
      have hshorter : behind.length <
          (front ++ opening ++ (inside ++ closing ++ behind)).length := by
        simp only [List.length_append, opening, closing, List.length_cons]
        omega
      obtain ⟨r, rest, rfl, hrest⟩ := ih _ hshorter behind rfl
      refine ⟨⟨front, ⟨inside, e, r.front, hinside, he, r.front_opening⟩ :: r.spans, hfront⟩,
        rest, ?_, hrest⟩
      simp [Reading.text, Span.text]
    · exact ⟨⟨front, [], hfront⟩, opening ++ inside ++ closing ++ behind, by simp [Reading.text],
        .invalid hinside fun e he => hvalid ⟨e, he⟩⟩

theorem process_text {r : Reading} (h : r.IsBounded) : process r.text = .ok r.result := by
  have hpieces := pieces_reading r (.inl rfl)
  rw [List.append_nil] at hpieces
  rw [process, hpieces, assemble_reading _ h]
  simp [pieces, piecesFrom, assemble, Except.map]

theorem process_refused {r : Reading} {rest : Text} (h : r.IsBounded) (hrest : Leaves rest)
    (hne : rest ≠ []) : ∃ failure,
      (process (r.text ++ rest)).mapError TemplateFailure.toFailure = .error failure ∧
        Refused (r.text ++ rest) failure := by
  cases hrest with
  | nothing => exact absurd rfl hne
  | @unclosed rest hopen =>
    refine ⟨_, ?_, .unclosed r (List.append_assoc _ _ _).symm hopen⟩
    rw [process, pieces_reading r (.inr ⟨rest, rfl⟩), assemble_reading _ h, pieces_opening,
      piecesFrom_unclosed hopen]
    rfl
  | @invalid inside behind hinside hnone =>
    have hinvalid : ¬ isValid inside.trim = true := by
      rw [isValid_iff]
      rintro ⟨e, he⟩
      exact hnone e he
    have hspan : opening ++ inside ++ closing ++ behind =
        opening ++ (inside ++ (closing ++ behind)) := by simp
    have hrule : r.text ++ (opening ++ inside ++ closing ++ behind) =
        r.text ++ opening ++ inside ++ closing ++ behind := by simp
    refine ⟨_, ?_, .invalid r hrule hinside hnone⟩
    rw [process, hspan, pieces_reading r (.inr ⟨_, rfl⟩), assemble_reading _ h, pieces_opening,
      piecesFrom_closed hinside]
    simp only [assemble, List.reverse_nil, List.nil_append, hinvalid]
    rfl

/-- A rule is processed exactly when it is read as text with expressions between marks. Then each span
is replaced by its value, and the result is left as it is when it is processed again. Every other rule
is refused for its first span that is not read. -/
theorem process_reading {rule : Text} (h : WithinLimits rule) :
    ((∃ t, process rule = .ok t) ↔ ∃ r : Reading, r.text = rule) ∧
      (∀ r : Reading, r.text = rule → process rule = .ok r.result ∧ ¬ opening <:+: r.result ∧
        process r.result = .ok r.result) ∧
      ((∀ r : Reading, r.text ≠ rule) → ∃ failure,
        (process rule).mapError TemplateFailure.toFailure = .error failure ∧
          Refused rule failure) := by
  have hread : ∀ r : Reading, r.text = rule → process rule = .ok r.result := by
    rintro r rfl
    exact process_text (h r List.prefix_rfl)
  have hrefused : (∀ r : Reading, r.text ≠ rule) → ∃ failure,
      (process rule).mapError TemplateFailure.toFailure = .error failure ∧ Refused rule failure := by
    intro hnone
    obtain ⟨r, rest, rfl, hrest⟩ := exists_reading rule
    have hne : rest ≠ [] := by
      rintro rfl
      exact hnone r (List.append_nil _).symm
    exact process_refused (h r ⟨rest, rfl⟩) hrest hne
  refine ⟨⟨?_, ?_⟩, ?_, hrefused⟩
  · rintro ⟨t, ht⟩
    by_contra hnone
    obtain ⟨failure, hfailure, -⟩ := hrefused (not_exists.mp hnone)
    rw [ht] at hfailure
    cases hfailure
  · rintro ⟨r, hr⟩
    exact ⟨_, hread r hr⟩
  · intro r hr
    have hplain := not_opening_results r.front_opening r.spans
    exact ⟨hread r hr, hplain, process_plain hplain⟩

theorem withinLimits_of_length {rule : Text} (h : rule.length ≤ Numeral.digitLimit) :
    WithinLimits rule := by
  intro r hr s hs
  apply Expression.isBounded_of_length
  have htrim := Text.length_trim_le s.inside
  have hspan : s.text.length ≤ r.text.length := by
    have hsub : s.text.length ≤ (r.spans.flatMap Span.text).length := Text.length_le_flatMap hs
    rw [Reading.text, List.length_append]
    omega
  have hinside : s.inside.length ≤ s.text.length := by
    simp only [Span.text, List.length_append]
    omega
  rw [s.expression_text]
  exact htrim.trans (hinside.trans (hspan.trans (hr.length_le.trans h)))

/-- Marks that overlap, a mark for the end that ends nothing, and blanks around an expression. -/
def sampleReading : Reading where
  front := "["
  spans := [⟨"1+2", ⟨⟨"1", by decide, by decide⟩, [(.plus, ⟨"2", by decide, by decide⟩)]⟩, "!!]x",
      by decide, by decide, by decide⟩,
    ⟨" 4-8 ", ⟨⟨"4", by decide, by decide⟩, [(.minus, ⟨"8", by decide, by decide⟩)]⟩, "",
      by decide, by decide, by decide⟩]
  front_opening := by decide

theorem process_reading_sample :
    WithinLimits "[[!1+2!]!!]x[! 4-8 !]" ∧
      process "[[!1+2!]!!]x[! 4-8 !]" = .ok "[3!!]x-4" ∧ ¬ opening <:+: ("[3!!]x-4" : Text) ∧
      process "[3!!]x-4" = .ok "[3!!]x-4" := by
  have hlimits : WithinLimits "[[!1+2!]!!]x[! 4-8 !]" := withinLimits_of_length (by decide)
  obtain ⟨-, hread, -⟩ := process_reading hlimits
  exact ⟨hlimits, hread sampleReading (by decide)⟩

end Rule
end Copybook
