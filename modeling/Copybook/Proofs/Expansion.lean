import Copybook.Picture
import Copybook.Proofs.Arithmetic
import Copybook.Proofs.Text
import Mathlib.Data.List.Infix

/-!
What pictures are expanded. A picture is read as symbols with repetition counts behind them, and each
symbol is written out as often as the product of its counts says; whatever else stands in a picture is
a flaw of it. Both hold exactly as long as no count, and no block of symbols that counts make on the
way, is beyond the limit of repetition. -/
namespace Copybook
namespace Picture

open Rule (Digits)

/-- What may stand between parentheses: digits, with blanks around them. -/
structure Count where
  text : Text
  digits : Digits
  text_closed : ')' ∉ text
  digits_text : digits.text = text.trim

namespace Count

def value (c : Count) : Nat := c.digits.value

def group (c : Count) : Text := '(' :: (c.text ++ [')'])

def IsWithinLimit (c : Count) : Prop := c.digits.text.length ≤ Numeral.digitLimit

end Count

def product (counts : List Count) : Nat := (counts.map Count.value).prod

/-- Whether counts, and the lengths of the blocks that they make one after the other of a block of
`length` symbols, are within the limit of repetition. -/
structure Fit (length : Nat) (counts : List Count) : Prop where
  count_le : ∀ c ∈ counts, c.value ≤ maxLength
  block_le : ∀ front, front <+: counts → length * product front ≤ maxLength

structure Item where
  symbol : Char
  counts : List Count
  symbol_plain : symbol ≠ '('

namespace Item

def text (i : Item) : Text := i.symbol :: i.counts.flatMap Count.group

def expansion (i : Item) : Text := List.replicate (product i.counts) i.symbol

def Fits (i : Item) : Prop := Fit 1 i.counts

end Item

/-- What is promised of a picture: that it is expanded if it is made of items, and else has a flaw. -/
structure IsExpanded (p : Text) : Prop where
  items : ∀ items : List Item, items.flatMap Item.text = p →
    expand p = .ok (items.flatMap Item.expansion)
  others : (∀ items : List Item, items.flatMap Item.text ≠ p) →
    ∃ flaw, expand p = .error (.malformed flaw)

/-! ### Counts -/

theorem product_cons (c : Count) (counts : List Count) :
    product (c :: counts) = c.value * product counts := List.prod_cons

theorem one_le : 1 ≤ maxLength := by decide

theorem fit_nil {length : Nat} (h : length ≤ maxLength) : Fit length [] where
  count_le := by simp
  block_le := by
    intro front hfront
    obtain rfl := List.prefix_nil.mp hfront
    simpa [product] using h

theorem fit_cons_iff {length : Nat} (hlength : length ≤ maxLength) {c : Count} {counts : List Count} :
    Fit length (c :: counts) ↔
      c.value ≤ maxLength ∧ length * c.value ≤ maxLength ∧ Fit (length * c.value) counts := by
  constructor
  · rintro ⟨hcounts, hblocks⟩
    obtain ⟨hfirst, hlater⟩ := List.forall_mem_cons.mp hcounts
    have hnext : ∀ front, front <+: counts → length * c.value * product front ≤ maxLength := by
      intro front hfront
      rw [Nat.mul_assoc, ← product_cons]
      exact hblocks _ (List.cons_prefix_cons.mpr ⟨rfl, hfront⟩)
    refine ⟨hfirst, ?_, hlater, hnext⟩
    simpa [product] using hnext [] List.nil_prefix
  · rintro ⟨hfirst, -, hlater, hblocks⟩
    refine ⟨List.forall_mem_cons.mpr ⟨hfirst, hlater⟩, ?_⟩
    intro front hfront
    rcases List.prefix_cons_iff.mp hfront with rfl | ⟨rest, rfl, hrest⟩
    · simpa [product] using hlength
    · rw [product_cons, ← Nat.mul_assoc]
      exact hblocks rest hrest

theorem readCount_digits {d : Digits} (h : d.text.length ≤ Numeral.digitLimit) (picture : Text) :
    readCount picture d.text = .ok d.value := by
  have hnonempty : d.text.isEmpty = false := by simpa using d.ne_nil
  have hall : d.text.all isDigitLike = true := by
    rw [List.all_eq_true]
    exact fun c hc => isDigitLike_of_isDigit (d.isDigit c hc)
  rw [readCount, hnonempty, hall, Rule.read_operand h]
  rfl

theorem repeated_replicate (n length : Nat) (symbol : Char) :
    Text.repeated n (List.replicate length symbol) = List.replicate (length * n) symbol := by
  rw [Text.repeated, List.flatten_replicate_replicate, Nat.mul_comm]

theorem repeatAs_count {c : Count} (h : c.IsWithinLimit) (picture : Text) (length : Nat)
    (symbol : Char) :
    repeatAs picture (List.replicate length symbol) c.text =
      if maxLength < c.value then .error (.repetition .countTooBig)
      else if maxLength < length * c.value then .error (.repetition .resultTooLong)
      else .ok (List.replicate (length * c.value) symbol) := by
  have hvalue : readCount picture c.text.trim = .ok c.value := by
    rw [← c.digits_text]
    exact readCount_digits h picture
  simp only [repeatAs, hvalue, repeatBlock, List.length_replicate, repeated_replicate]
  by_cases hcount : maxLength < c.value
  · simp only [hcount, if_true]
  · by_cases hblock : maxLength < length * c.value <;> simp only [hcount, hblock, if_true, if_false]

/-! ### Scanning -/

section

variable {picture : Text}

theorem expandFrom_inside {count : Text} (h : ')' ∉ count) (block held rest : Text) :
    expandFrom picture (.inside block held) (count ++ ')' :: rest) =
      expandFrom picture (.inside block (count.reverse ++ held)) (')' :: rest) := by
  induction count generalizing held with
  | nil => rfl
  | cons c count ih =>
    obtain ⟨hc, hcount⟩ := not_or.mp (mt List.mem_cons.mpr h)
    rw [List.cons_append, expandFrom, if_neg (Ne.symm hc), ih hcount]
    simp

theorem expandFrom_group {count : Text} (h : ')' ∉ count) (block rest : Text) :
    expandFrom picture (.after block) ('(' :: (count ++ ')' :: rest)) =
      (repeatAs picture block count).bind fun text => expandFrom picture (.after text) rest := by
  rw [expandFrom, if_pos rfl, expandFrom_inside h, List.append_nil, expandFrom, if_pos rfl,
    List.reverse_reverse]
  cases repeatAs picture block count <;> rfl

theorem expandFrom_unclosed {rest : Text} (h : ')' ∉ rest) (block held : Text) :
    expandFrom picture (.inside block held) rest = .error (.malformed (.unclosedCount picture)) := by
  induction rest generalizing held with
  | nil => rfl
  | cons c rest ih =>
    obtain ⟨hc, hrest⟩ := not_or.mp (mt List.mem_cons.mpr h)
    rw [expandFrom, if_neg (Ne.symm hc), ih hrest]

/-- Counts multiply a block as long as they fit, and the first that does not ends the expansion. -/
theorem expandFrom_counts {counts : List Count} (hlimit : ∀ c ∈ counts, c.IsWithinLimit)
    {length : Nat} (hlength : length ≤ maxLength) (symbol : Char) (u : Text) :
    (Fit length counts ∧
      expandFrom picture (.after (List.replicate length symbol)) (counts.flatMap Count.group ++ u) =
        expandFrom picture (.after (List.replicate (length * product counts) symbol)) u) ∨
    (¬ Fit length counts ∧ ∃ fault,
      expandFrom picture (.after (List.replicate length symbol)) (counts.flatMap Count.group ++ u) =
        .error (.repetition fault)) := by
  induction counts generalizing length with
  | nil => exact .inl ⟨fit_nil hlength, by simp [product]⟩
  | cons c counts ih =>
    obtain ⟨hfirst, hlater⟩ := List.forall_mem_cons.mp hlimit
    have htext : (c :: counts).flatMap Count.group ++ u =
        '(' :: (c.text ++ ')' :: (counts.flatMap Count.group ++ u)) := by
      simp [Count.group]
    rw [htext, expandFrom_group c.text_closed, repeatAs_count hfirst, fit_cons_iff hlength,
      product_cons, ← Nat.mul_assoc]
    by_cases hcount : maxLength < c.value
    · rw [if_pos hcount]
      exact .inr ⟨fun h => absurd h.1 (Nat.not_le.mpr hcount), _, rfl⟩
    by_cases hblock : maxLength < length * c.value
    · rw [if_neg hcount, if_pos hblock]
      exact .inr ⟨fun h => absurd h.2.1 (Nat.not_le.mpr hblock), _, rfl⟩
    rw [if_neg hcount, if_neg hblock]
    rcases ih hlater (Nat.not_lt.mp hblock) with ⟨hfits, htext⟩ | ⟨hnot, htext⟩
    · exact .inl ⟨⟨Nat.not_lt.mp hcount, Nat.not_lt.mp hblock, hfits⟩, htext⟩
    · exact .inr ⟨fun h => hnot h.2.2, htext⟩

theorem expandFrom_symbol (i : Item) (block u : Text) :
    expandFrom picture (.after block) (i.text ++ u) =
      (expandFrom picture (.after [i.symbol]) (i.counts.flatMap Count.group ++ u)).map (block ++ ·) := by
  rw [Item.text, List.cons_append, expandFrom, if_neg i.symbol_plain]

variable {items : List Item} (hlimit : ∀ i ∈ items, ∀ c ∈ i.counts, c.IsWithinLimit)
include hlimit

theorem expandFrom_items (hfits : ∀ i ∈ items, i.Fits) {u : Text}
    {outcome : Except EntryFailure Text}
    (hu : ∀ block, expandFrom picture (.after block) u = outcome.map (block ++ ·)) (block : Text) :
    expandFrom picture (.after block) (items.flatMap Item.text ++ u) =
      outcome.map (block ++ items.flatMap Item.expansion ++ ·) := by
  induction items generalizing block with
  | nil => simpa using hu block
  | cons i items ih =>
    obtain ⟨hfirst, hlater⟩ := List.forall_mem_cons.mp hfits
    obtain ⟨hcounts, hrest⟩ := List.forall_mem_cons.mp hlimit
    rw [List.flatMap_cons, List.append_assoc, expandFrom_symbol]
    rcases expandFrom_counts hcounts one_le i.symbol (items.flatMap Item.text ++ u) with
      ⟨-, hi⟩ | ⟨hnot, -⟩
    · rw [List.replicate_one, Nat.one_mul] at hi
      rw [hi, ih hrest hlater]
      cases outcome <;> simp [Except.map, Item.expansion]
    · exact absurd hfirst hnot

theorem expandFrom_overflow (hover : ∃ i ∈ items, ¬ i.Fits) (u block : Text) : ∃ fault,
    expandFrom picture (.after block) (items.flatMap Item.text ++ u) =
      .error (.repetition fault) := by
  induction items generalizing block with
  | nil => simp at hover
  | cons i items ih =>
    obtain ⟨hcounts, hrest⟩ := List.forall_mem_cons.mp hlimit
    rw [List.flatMap_cons, List.append_assoc, expandFrom_symbol]
    rcases expandFrom_counts hcounts one_le i.symbol (items.flatMap Item.text ++ u) with
      ⟨hi, htext⟩ | ⟨-, fault, htext⟩
    · have hlater : ∃ i ∈ items, ¬ i.Fits := by
        obtain ⟨other, hmem, hother⟩ := hover
        rcases List.mem_cons.mp hmem with rfl | hmem
        · exact absurd hi hother
        · exact ⟨other, hmem, hother⟩
      obtain ⟨fault, hfault⟩ := ih hrest hlater (List.replicate (1 * product i.counts) i.symbol)
      rw [List.replicate_one] at htext
      exact ⟨fault, by rw [htext, hfault]; rfl⟩
    · rw [List.replicate_one] at htext
      exact ⟨fault, by rw [htext]; rfl⟩

end

/-! ### What pictures are made of -/

/-- What keeps the rest of a picture from being read: a parenthesis that is not closed, or one that
holds no digits. -/
inductive Stops : Text → Prop
  | unclosed {rest : Text} : ')' ∉ rest → Stops ('(' :: rest)
  | badCount {count rest : Text} : ')' ∉ count → (∀ d : Digits, d.text ≠ count.trim) →
      Stops ('(' :: (count ++ ')' :: rest))

theorem exists_items (t : Text) : ∃ (counts : List Count) (items : List Item) (rest : Text),
    t = counts.flatMap Count.group ++ (items.flatMap Item.text ++ rest) ∧ (rest = [] ∨ Stops rest) := by
  -- By induction on the length: behind a symbol and behind closed parentheses there is a shorter text.
  induction hlength : t.length using Nat.strongRecOn generalizing t with
  | ind n ih =>
    subst hlength
    cases t with
    | nil => exact ⟨[], [], [], rfl, .inl rfl⟩
    | cons c t =>
      by_cases hc : c = '('
      · subst hc
        by_cases hclosed : ')' ∈ t
        · obtain ⟨count, behind, rfl, hcount⟩ := List.eq_append_cons_of_mem hclosed
          by_cases hdigits : ∃ d : Digits, d.text = Text.trim count
          · obtain ⟨d, hd⟩ := hdigits
            have hshorter : behind.length < ('(' :: (count ++ ')' :: behind)).length := by
              simp only [List.length_cons, List.length_append]
              omega
            obtain ⟨counts, items, rest, rfl, hrest⟩ := ih _ hshorter behind rfl
            exact ⟨⟨count, d, hcount, hd⟩ :: counts, items, rest, by simp [Count.group], hrest⟩
          · exact ⟨[], [], _, rfl, .inr (.badCount hcount (not_exists.mp hdigits))⟩
        · exact ⟨[], [], _, rfl, .inr (.unclosed hclosed)⟩
      · obtain ⟨counts, items, rest, rfl, hrest⟩ := ih t.length (Nat.lt_succ_self _) t rfl
        exact ⟨[], ⟨c, counts, hc⟩ :: items, rest, by simp [Item.text], hrest⟩

theorem exists_items_of_head {p : Text} (h : p.head? ≠ some '(') :
    ∃ (items : List Item) (rest : Text),
      p = items.flatMap Item.text ++ rest ∧ (rest = [] ∨ Stops rest) := by
  obtain ⟨counts, items, rest, rfl, hrest⟩ := exists_items p
  cases counts with
  | nil => exact ⟨items, rest, rfl, hrest⟩
  | cons c counts => exact absurd rfl h

theorem items_eq_nil {items : List Item} {t : Text} (h : items.flatMap Item.text <+: '(' :: t) :
    items = [] := by
  cases items with
  | nil => rfl
  | cons i items => exact absurd (List.cons_prefix_cons.mp h).1 i.symbol_plain

theorem isDigit_of_isDigitLike {c : Char} (hascii : c.toNat < 0x80) (h : isDigitLike c = true) :
    c.isDigit = true := by
  have hmark : Digit.isMark c = false := by
    rw [Digit.isMark, List.any_eq_false]
    have hmarks : ∀ range ∈ Digit.marks, 0x80 ≤ range.1 := by decide
    intro range hrange
    have hlow := hmarks range hrange
    simp only [Bool.and_eq_true, decide_eq_true_eq, not_and]
    omega
  by_contra hdigit
  simp [isDigitLike, hmark, Digit.value?, hascii, hdigit] at h

theorem readCount_flaw {count : Text} (hascii : ∀ c ∈ count, c.toNat < 0x80)
    (h : ∀ d : Digits, d.text ≠ count) (picture : Text) :
    readCount picture count = .error (.malformed (.badCount picture count)) := by
  refine if_pos ?_
  by_contra hgood
  simp only [Bool.or_eq_true, not_or, Bool.not_eq_true, List.isEmpty_eq_false_iff,
    Bool.not_eq_false', List.all_eq_true] at hgood
  obtain ⟨hne, hlike⟩ := hgood
  exact h ⟨count, hne, fun c hc => isDigit_of_isDigitLike (hascii c hc) (hlike c hc)⟩ rfl

theorem Stops.flaw {rest : Text} (hstops : Stops rest) (hascii : ∀ c ∈ rest, c.toNat < 0x80)
    (picture : Text) :
    ∃ flaw, ∀ block, expandFrom picture (.after block) rest = .error (.malformed flaw) := by
  cases hstops with
  | unclosed hopen =>
    refine ⟨.unclosedCount picture, fun block => ?_⟩
    rw [expandFrom, if_pos rfl, expandFrom_unclosed hopen]
  | @badCount count rest hclosed hnone =>
    have htrim : ∀ c ∈ count.trim, c.toNat < 0x80 := fun c hc =>
      hascii c (by simp [Text.mem_of_mem_trim hc])
    refine ⟨.badCount picture count.trim, fun block => ?_⟩
    rw [expandFrom_group hclosed, repeatAs, readCount_flaw htrim hnone]
    rfl

theorem expand_of_head {p : Text} (h : p.head? ≠ some '(') :
    expand p = expandFrom p (.after []) p := by
  cases p with
  | nil => rfl
  | cons c r =>
    have hc : c ≠ '(' := fun hc => h (congrArg some hc)
    have hid : ∀ outcome : Except EntryFailure Text, outcome = outcome.map ([] ++ ·) := by
      intro outcome
      cases outcome <;> rfl
    rw [expand, expandFrom, if_neg hc, expandFrom, if_neg hc]
    exact hid _

/-! ### Pictures -/

theorem head_of_items (items : List Item) : (items.flatMap Item.text).head? ≠ some '(' := by
  intro hhead
  obtain ⟨t, ht⟩ := List.head?_eq_some_iff.mp hhead
  obtain rfl := items_eq_nil (by rw [ht])
  cases ht

theorem expand_items {items : List Item} (hlimit : ∀ i ∈ items, ∀ c ∈ i.counts, c.IsWithinLimit)
    (hfits : ∀ i ∈ items, i.Fits) :
    expand (items.flatMap Item.text) = .ok (items.flatMap Item.expansion) := by
  have hnil : ∀ block, expandFrom (items.flatMap Item.text) (.after block) [] =
      (Except.ok []).map (block ++ ·) := by
    intro block
    rw [expandFrom, Except.map, List.append_nil]
  have hexpand := expandFrom_items hlimit hfits hnil []
  rw [expand_of_head (head_of_items items)]
  simpa [Except.map] using hexpand

section

variable {p : Text} (hascii : ∀ c ∈ p, c.toNat < 0x80)
  (hlimit : ∀ items : List Item, items.flatMap Item.text <+: p →
    ∀ i ∈ items, ∀ c ∈ i.counts, c.IsWithinLimit)

include hascii hlimit in
theorem isExpanded_of_fits
    (hfits : ∀ items : List Item, items.flatMap Item.text <+: p → ∀ i ∈ items, i.Fits) :
    IsExpanded p := by
  constructor
  · rintro items rfl
    exact expand_items (hlimit items List.prefix_rfl) (hfits items List.prefix_rfl)
  · intro hnone
    by_cases hhead : p.head? = some '('
    · obtain ⟨t, rfl⟩ := List.head?_eq_some_iff.mp hhead
      exact ⟨_, rfl⟩
    · obtain ⟨items, rest, rfl, hrest⟩ := exists_items_of_head hhead
      have hfront : items.flatMap Item.text <+: items.flatMap Item.text ++ rest := ⟨rest, rfl⟩
      rcases hrest with rfl | hstops
      · exact absurd (List.append_nil _).symm (hnone items)
      · obtain ⟨flaw, hflaw⟩ := hstops.flaw (fun c hc => hascii c (by simp [hc]))
          (items.flatMap Item.text ++ rest)
        have hrest : ∀ block, expandFrom (items.flatMap Item.text ++ rest) (.after block) rest =
            (Except.error (.malformed flaw)).map (block ++ ·) := hflaw
        have hexpand := expandFrom_items (hlimit items hfront) (hfits items hfront) hrest []
        exact ⟨flaw, (expand_of_head hhead).trans hexpand⟩

include hlimit in
theorem expand_of_overflow
    (hover : ¬ ∀ items : List Item, items.flatMap Item.text <+: p → ∀ i ∈ items, i.Fits) :
    ∃ fault, expand p = .error (.repetition fault) := by
  push Not at hover
  obtain ⟨items, hfront, hover⟩ := hover
  have hhead : p.head? ≠ some '(' := by
    intro hhead
    obtain ⟨t, rfl⟩ := List.head?_eq_some_iff.mp hhead
    obtain rfl := items_eq_nil hfront
    simp at hover
  have hitems := hlimit items hfront
  obtain ⟨rest, rfl⟩ := hfront
  rw [expand_of_head hhead]
  exact expandFrom_overflow hitems hover rest []

end

/-- A picture in ASCII is expanded as its items say, and every other one is refused for a flaw, exactly
as long as all items that are read keep within the limit of repetition. An item that does not is a
fault, be it followed by a count of zero or by a flaw. -/
theorem isExpanded_iff {p : Text} (hascii : ∀ c ∈ p, c.toNat < 0x80)
    (hlimit : ∀ items : List Item, items.flatMap Item.text <+: p →
      ∀ i ∈ items, ∀ c ∈ i.counts, c.IsWithinLimit) :
    (IsExpanded p ↔
      ∀ items : List Item, items.flatMap Item.text <+: p → ∀ i ∈ items, i.Fits) ∧
    (¬ IsExpanded p → ∃ fault, expand p = .error (.repetition fault)) := by
  by_cases hfits : ∀ items : List Item, items.flatMap Item.text <+: p → ∀ i ∈ items, i.Fits
  · have hexpanded := isExpanded_of_fits hascii hlimit hfits
    exact ⟨iff_of_true hexpanded hfits, fun h => absurd hexpanded h⟩
  · obtain ⟨fault, hfault⟩ := expand_of_overflow hlimit hfits
    refine ⟨iff_of_false ?_ hfits, fun _ => ⟨fault, hfault⟩⟩
    rintro ⟨hitems, hothers⟩
    by_cases hsome : ∃ items : List Item, items.flatMap Item.text = p
    · obtain ⟨items, htext⟩ := hsome
      cases (hitems items htext).symm.trans hfault
    · obtain ⟨flaw, hflaw⟩ := hothers (not_exists.mp hsome)
      cases hflaw.symm.trans hfault

theorem isWithinLimit_of_length {p : Text} (h : p.length ≤ Numeral.digitLimit) {items : List Item}
    (hfront : items.flatMap Item.text <+: p) : ∀ i ∈ items, ∀ c ∈ i.counts, c.IsWithinLimit := by
  intro i hi c hc
  have hitem : i.text.length ≤ (items.flatMap Item.text).length := Text.length_le_flatMap hi
  have hgroup : c.group.length ≤ (i.counts.flatMap Count.group).length := Text.length_le_flatMap hc
  have htrim : c.digits.text.length ≤ c.text.length := by
    rw [c.digits_text]
    exact Text.length_trim_le c.text
  have hwhole := hfront.length_le
  rw [Item.text, List.length_cons] at hitem
  rw [Count.group, List.length_cons, List.length_append] at hgroup
  rw [Count.IsWithinLimit]
  omega

/-- A symbol that a count of zero takes away, and behind that a count beyond the limit. -/
def sampleItem : Item where
  symbol := 'X'
  counts := [⟨"0", ⟨"0", by decide, by decide⟩, by decide, by decide⟩,
    ⟨"99999999999999999999", ⟨"99999999999999999999", by decide, by decide⟩, by decide, by decide⟩]
  symbol_plain := by decide

theorem isExpanded_iff_zero : sampleItem.text = "X(0)(99999999999999999999)" ∧
    sampleItem.expansion = [] ∧ ¬ sampleItem.Fits ∧
      (∀ c ∈ sampleItem.text, c.toNat < 0x80) ∧
      (∀ items : List Item, items.flatMap Item.text <+: sampleItem.text →
        ∀ i ∈ items, ∀ c ∈ i.counts, c.IsWithinLimit) ∧
      ¬ IsExpanded sampleItem.text ∧
      ∃ fault, expand sampleItem.text = .error (.repetition fault) := by
  have htext : [sampleItem].flatMap Item.text = sampleItem.text := List.flatMap_singleton _ _
  have hover : ¬ sampleItem.Fits := by
    intro hfits
    have hcount := hfits.count_le _ (List.mem_cons_of_mem _ List.mem_cons_self)
    exact absurd hcount (by decide)
  have hascii : ∀ c ∈ sampleItem.text, c.toNat < 0x80 := by decide
  have hlimit : ∀ items : List Item, items.flatMap Item.text <+: sampleItem.text →
      ∀ i ∈ items, ∀ c ∈ i.counts, c.IsWithinLimit := fun items hfront =>
    isWithinLimit_of_length (by decide) hfront
  obtain ⟨hiff, hfault⟩ := isExpanded_iff hascii hlimit
  have hnot : ¬ IsExpanded sampleItem.text := by
    rw [hiff]
    intro hfits
    exact hover (hfits [sampleItem] (by rw [htext]) sampleItem List.mem_cons_self)
  exact ⟨by decide, by decide, hover, hascii, hlimit, hnot, hfault hnot⟩

end Picture
end Copybook
