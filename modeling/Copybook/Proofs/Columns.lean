import Copybook.Proofs.Layout
import Copybook.Proofs.Rendering

/-!
Columns that count. Of a copybook only the lines that say something play a part, and of each of them
only columns 8 to 72 and whether it continues the line before it. Copybooks that agree in these are
put together to the same sentences, each on a line of its own, and are harvested alike. -/
namespace Copybook

namespace Card

theorem kind_eq_comment_iff (c : Card) : c.kind = .comment ↔ c.indicator = some '*' := by
  unfold kind
  generalize c.indicator = indicator
  split <;> simp_all

theorem kind_eq_page_iff (c : Card) : c.kind = .page ↔ c.indicator = some '/' := by
  unfold kind
  generalize c.indicator = indicator
  split <;> simp_all

theorem kind_eq_continuation_iff (c : Card) : c.kind = .continuation ↔ c.indicator = some '-' := by
  unfold kind
  generalize c.indicator = indicator
  split <;> simp_all

end Card

namespace Layout

instance (line : Text) : Decidable (IsFiller line) := by
  unfold IsFiller
  infer_instance

/-- What counts of a line: whether it continues the line before it, and columns 8 to 72. -/
def essence (line : Text) : Option (Bool × Text) :=
  if IsFiller line then none
  else some ((bare line)[6]? = some '-', ((bare line).drop 7).take 65)

theorem isFiller_of_isSkippable {line : Text} {number : Nat}
    (h : (⟨bare line, number⟩ : Card).isSkippable = true) : IsFiller line := by
  simp only [Card.isSkippable, Card.isComment, Bool.or_eq_true, decide_eq_true_eq,
    Card.kind_eq_comment_iff, Card.kind_eq_page_iff] at h
  rcases h with (((h | h) | h) | h) | h
  · exact .inl (by omega)
  · exact .inr (.inl h)
  · exact .inr (.inr (.inl h))
  · exact .inl h
  · exact .inr (.inr (.inr (List.all_eq_true.mp h)))

end Layout

/-- Copybooks that differ only in lines and columns that say nothing. -/
def SameEssence (lines lines' : List Text) : Prop :=
  lines.filterMap Layout.essence = lines'.filterMap Layout.essence

namespace Card

/-- The lines that say something, with their numbers among all lines. -/
def numbered (number : Nat) (lines : List Text) : List Card :=
  ((lines.zipIdx number).map fun line => (⟨Layout.bare line.1, line.2⟩ : Card)).filter
    fun card => !card.isSkippable

def essence (c : Card) : Bool × Text := (c.isContinuation, c.code)

theorem numbered_cons (number : Nat) (line : Text) (rest : List Text) :
    numbered number (line :: rest) =
      if (⟨Layout.bare line, number⟩ : Card).isSkippable then numbered (number + 1) rest
      else ⟨Layout.bare line, number⟩ :: numbered (number + 1) rest := by
  cases h : (⟨Layout.bare line, number⟩ : Card).isSkippable <;> simp [numbered, h]

theorem essence_line (line : Text) (number : Nat) :
    Layout.essence line = if (⟨Layout.bare line, number⟩ : Card).isSkippable then none
      else some (⟨Layout.bare line, number⟩ : Card).essence := by
  unfold Layout.essence
  by_cases h : Layout.IsFiller line
  · rw [if_pos h, if_pos (h.isSkippable number)]
  · rw [if_neg h, if_neg fun hs => h (Layout.isFiller_of_isSkippable hs)]
    rw [essence, isContinuation, decide_eq_decide.mpr (kind_eq_continuation_iff _)]
    rfl

theorem essence_numbered (number : Nat) (lines : List Text) :
    (numbered number lines).map essence = lines.filterMap Layout.essence := by
  induction lines generalizing number with
  | nil => rfl
  | cons line rest ih =>
    rw [numbered_cons, List.filterMap_cons, essence_line line number, ← ih (number + 1)]
    split <;> rfl

theorem mem_numbered {number : Nat} {lines : List Text} {card : Card}
    (h : card ∈ numbered number lines) : ∃ line, (line, card.number) ∈ lines.zipIdx number ∧
      Layout.essence line = some card.essence := by
  obtain ⟨hmem, hsays⟩ := List.mem_filter.mp h
  obtain ⟨⟨line, n⟩, hline, rfl⟩ := List.mem_map.mp hmem
  refine ⟨line, hline, ?_⟩
  rw [essence_line line n, if_neg (by simpa using hsays)]

/-- The cards on which a sentence begins; `opened` says that one has begun before. -/
def openings : Bool → List Card → List Card
  | _, [] => []
  | true, card :: rest => openings (Sentence.isContinued card.code) rest
  | false, card :: rest => card :: openings (Sentence.isContinued card.code) rest

theorem openings_sublist (opened : Bool) (cards : List Card) :
    (openings opened cards).Sublist cards := by
  induction cards generalizing opened with
  | nil => cases opened <;> exact .slnil
  | cons card rest ih =>
    cases opened with
    | true => exact (ih _).cons card
    | false => exact (ih _).cons_cons card

theorem openings_subset (opened : Bool) (cards : List Card) : openings opened cards ⊆ cards :=
  (openings_sublist opened cards).subset

theorem openings_essence {cards cards' : List Card} (h : cards.map essence = cards'.map essence)
    (opened : Bool) :
    (openings opened cards).map essence = (openings opened cards').map essence := by
  induction cards generalizing cards' opened with
  | nil =>
    obtain rfl : cards' = [] := by simpa using h.symm
    rfl
  | cons card rest ih =>
    obtain ⟨card', rest', rfl⟩ : ∃ card' rest', cards' = card' :: rest' := by
      cases cards' with
      | nil => simp at h
      | cons card' rest' => exact ⟨card', rest', rfl⟩
    obtain ⟨hcard, hrest⟩ := List.cons.inj h
    have hcode : card.code = card'.code := (Prod.mk.inj hcard).2
    cases opened with
    | true =>
      rw [openings, openings, hcode]
      exact ih hrest _
    | false =>
      rw [openings, openings, hcode, List.map_cons, List.map_cons, hcard, ih hrest]

end Card

def startLines (lines : List Text) : List Nat :=
  (Card.openings false (Card.numbered 1 lines)).map (·.number)

/-- Lines of two copybooks on which the same sentence begins. They are counted among the physical
lines, and they agree in what counts. -/
structure Counterparts (lines lines' : List Text) (n n' : Nat) : Prop where
  starts : (n, n') ∈ (startLines lines).zip (startLines lines')
  physical : ∃ line line' essence, (line, n) ∈ lines.zipIdx 1 ∧ (line', n') ∈ lines'.zipIdx 1 ∧
    Layout.essence line = some essence ∧ Layout.essence line' = some essence

theorem SameEssence.cards {lines lines' : List Text} (h : SameEssence lines lines') :
    (Card.numbered 1 lines).map Card.essence = (Card.numbered 1 lines').map Card.essence := by
  rw [Card.essence_numbered, Card.essence_numbered]
  exact h

theorem SameEssence.counterparts {lines lines' : List Text} (h : SameEssence lines lines')
    {pair : Card × Card} (hpair : pair ∈ (Card.openings false (Card.numbered 1 lines)).zip
      (Card.openings false (Card.numbered 1 lines'))) :
    Counterparts lines lines' pair.1.number pair.2.number := by
  constructor
  · unfold startLines
    rw [List.zip_map]
    exact List.mem_map_of_mem hpair
  · obtain ⟨hcard, hcard'⟩ := List.of_mem_zip hpair
    obtain ⟨line, hline, hessence⟩ := Card.mem_numbered (Card.openings_subset _ _ hcard)
    obtain ⟨line', hline', hessence'⟩ := Card.mem_numbered (Card.openings_subset _ _ hcard')
    have heq : pair.1.essence = pair.2.essence := by
      obtain ⟨i, hi, rfl⟩ := List.mem_iff_getElem.mp hpair
      have hplace := congrArg (·[i]?) (Card.openings_essence h.cards false)
      rw [List.length_zip, Nat.lt_min] at hi
      simpa [List.getElem?_eq_getElem hi.1, List.getElem?_eq_getElem hi.2] using hplace
    exact ⟨line, line', pair.1.essence, hline, hline', hessence, heq ▸ hessence'⟩

namespace Sentence

open Layout (bare grown closing scanFrom_cons)

variable {P : Nat → Nat → Prop}

def scanCards : Option Draft → List Card → Scan
  | draft, [] => ⟨[], draft.map Draft.finish⟩
  | draft, card :: rest =>
    if isContinued card.code then scanCards (some (grown draft card)) rest
    else closing (grown draft card).finish (scanCards none rest)

theorem scanFrom_eq (number : Nat) (draft : Option Draft) (lines : List Text) :
    scanFrom number draft lines = scanCards draft (Card.numbered number lines) := by
  induction lines generalizing number draft with
  | nil => rfl
  | cons line rest ih =>
    rw [scanFrom_cons, Card.numbered_cons]
    split
    · exact ih _ _
    · rw [scanCards, ih, ih]

structure Same (P : Nat → Nat → Prop) (s s' : Sentence) : Prop where
  text : s.text = s'.text
  line : P s.line s'.line

structure Draft.Same (P : Nat → Nat → Prop) (d d' : Draft) : Prop where
  line : P d.line d'.line
  last : d.last = d'.last
  earlier : d.earlier = d'.earlier

theorem Draft.Same.finish {d d' : Draft} (h : d.Same P d') : d.finish.Same P d'.finish := by
  obtain ⟨hline, hlast, hearlier⟩ := h
  refine ⟨?_, hline⟩
  unfold Draft.finish Draft.joined
  rw [hlast, hearlier]

theorem Draft.Same.grown {draft draft' : Option Draft} (h : Option.Rel (Draft.Same P) draft draft')
    {card card' : Card} (hcard : card.essence = card'.essence)
    (hnumber : draft = none → P card.number card'.number) :
    (grown draft card).Same P (grown draft' card') := by
  obtain ⟨hcontinuation, hcode⟩ := Prod.mk.inj hcard
  cases h with
  | none => exact ⟨hnumber rfl, congrArg Text.trim hcode, rfl⟩
  | @some d d' h =>
    obtain ⟨hline, hlast, hearlier⟩ := h
    unfold Layout.grown Draft.extend
    dsimp only
    rw [hcontinuation, hcode, hlast, hearlier]
    split
    · exact ⟨hline, rfl, rfl⟩
    · exact ⟨hline, rfl, rfl⟩

/-- Cards that agree in what counts are scanned to the same sentences. -/
theorem scanCards_same {cards cards' : List Card}
    (h : cards.map Card.essence = cards'.map Card.essence)
    {draft draft' : Option Draft} (hdraft : Option.Rel (Draft.Same P) draft draft')
    (hnumbers : ∀ pair ∈
      (Card.openings draft.isSome cards).zip (Card.openings draft'.isSome cards'), P pair.1.number pair.2.number) :
    List.Forall₂ (Same P) (scanCards draft cards).closed (scanCards draft' cards').closed ∧
      Option.Rel (Same P) (scanCards draft cards).pending (scanCards draft' cards').pending := by
  induction cards generalizing cards' draft draft' with
  | nil =>
    obtain rfl : cards' = [] := by simpa using h.symm
    refine ⟨.nil, ?_⟩
    cases hdraft with
    | none => exact .none
    | some hd => exact .some hd.finish
  | cons card rest ih =>
    obtain ⟨card', rest', rfl⟩ : ∃ card' rest', cards' = card' :: rest' := by
      cases cards' with
      | nil => simp at h
      | cons card' rest' => exact ⟨card', rest', rfl⟩
    obtain ⟨hcard, hrest⟩ := List.cons.inj h
    have hcode : card.code = card'.code := (Prod.mk.inj hcard).2
    -- a sentence begins here on both sides or on neither
    have hgrown : (grown draft card).Same P (grown draft' card') := by
      refine Draft.Same.grown hdraft hcard ?_
      rintro rfl
      cases hdraft
      exact hnumbers (card, card') (by simp [Card.openings])
    have hlater : ∀ pair ∈ (Card.openings (isContinued card.code) rest).zip
        (Card.openings (isContinued card'.code) rest'), P pair.1.number pair.2.number := by
      intro pair hpair
      refine hnumbers pair ?_
      cases hdraft with
      | none => exact List.mem_cons_of_mem _ hpair
      | some => exact hpair
    unfold scanCards
    rw [← hcode] at hlater ⊢
    cases hcontinued : isContinued card.code with
    | true =>
      rw [hcontinued] at hlater
      rw [if_pos rfl, if_pos rfl]
      exact ih hrest (.some hgrown) hlater
    | false =>
      rw [hcontinued] at hlater
      rw [if_neg (by simp), if_neg (by simp)]
      obtain ⟨hclosed, hpending⟩ := ih hrest .none hlater
      exact ⟨.cons hgrown.finish hclosed, hpending⟩

theorem scan_same {lines lines' : List Text} (h : SameEssence lines lines') :
    List.Forall₂ (Same (Counterparts lines lines')) (scan lines).closed (scan lines').closed ∧
      Option.Rel (Same (Counterparts lines lines')) (scan lines).pending (scan lines').pending := by
  unfold scan
  rw [scanFrom_eq, scanFrom_eq]
  exact scanCards_same h.cards .none fun _ hpair => h.counterparts hpair

end Sentence

def Failure.IsLocated (f : Failure) : Prop :=
  ∃ text file line, f = .problem (.malformed text file line)

theorem Failure.fault_not_located (fault : Fault) : ¬ (Failure.fault fault).IsLocated := by
  rintro ⟨_, _, _, ⟨⟩⟩

def NamesNoLine {α : Type} (result : Except Failure α) : Prop :=
  ∀ failure, result = .error failure → ¬ failure.IsLocated

namespace NamesNoLine
variable {α β : Type}

theorem ok (a : α) : NamesNoLine (.ok a) := by rintro _ ⟨⟩

theorem error {failure : Failure} (h : ¬ failure.IsLocated) :
    NamesNoLine (.error failure : Except Failure α) := by
  rintro _ ⟨⟩
  exact h

theorem bind {result : Except Failure α} {next : α → Except Failure β} (h : NamesNoLine result)
    (hnext : ∀ a, NamesNoLine (next a)) : NamesNoLine (result >>= next) := by
  cases result with
  | ok a => exact hnext a
  | error failure => exact error (h failure rfl)

end NamesNoLine

/-- Failures that are equal up to the names of the copybooks and the lines in them. -/
inductive Failure.Alike (P : Nat → Nat → Prop) (copybook copybook' : Text) :
    Failure → Failure → Prop
  | located {text : Text} {n n' : Nat} : P n n' → Alike P copybook copybook'
      (.problem (.malformed text (some copybook) n))
      (.problem (.malformed text (some copybook') n'))
  | equal {f : Failure} : ¬ f.IsLocated → Alike P copybook copybook' f f

namespace Harvest

variable {P : Nat → Nat → Prop} (copybook copybook' : Text) (mapping : Mapping) (mode : CaseMode)

structure Outcome.Alike (P : Nat → Nat → Prop) (copybook copybook' : Text) (o o' : Outcome) :
    Prop where
  attributes : o.1.attributes = o'.1.attributes
  failure : Option.Rel (Failure.Alike P copybook copybook') o.2 o'.2

theorem alike_toFailure {n n' : Nat} (h : P n n') (failure : EntryFailure) :
    (failure.toFailure (some copybook) n).Alike P copybook copybook'
      (failure.toFailure (some copybook') n') := by
  cases failure with
  | malformed flaw => exact .located h
  | numeral problem => exact .equal (Failure.fault_not_located _)
  | repetition fault => exact .equal (Failure.fault_not_located _)

theorem addEntry_alike {h h' : Harvest} (ha : h.attributes = h'.attributes) (e : Entry) :
    Outcome.Alike P copybook copybook' (addEntry mapping mode e h)
      (addEntry mapping mode e h') := by
  cases mapping with
  | types => exact ⟨by simp [addEntry, ha], .none⟩
  | rules store =>
    unfold addEntry
    dsimp only
    rw [ha]
    cases hm : (mapEntry store mode e (h'.attributes.length + 1)).result with
    | error failure =>
      refine ⟨ha, .some (.equal ?_)⟩
      rintro ⟨text, file, line, rfl⟩
      exact @attributeOf_not_malformed (.rules store) _ _ _ _ _ _ hm
    | ok a => exact ⟨by simp [note], .none⟩

theorem take_alike {s s' : Sentence} (hs : s.Same P s') {h h' : Harvest}
    (ha : h.attributes = h'.attributes) :
    Outcome.Alike P copybook copybook' (take mapping mode copybook s h)
      (take mapping mode copybook' s' h') := by
  obtain ⟨htext, hline⟩ := hs
  unfold take
  rw [htext]
  split
  · exact ⟨ha, .none⟩
  · cases Entry.read s'.text with
    | error failure => exact ⟨ha, .some (alike_toFailure copybook copybook' hline failure)⟩
    | ok e =>
      dsimp only
      split
      · have hnoted : (h.note e.notes).attributes = (h'.note e.notes).attributes := ha
        rw [hnoted]
        cases addCode _ (h'.note e.notes).attributes with
        | none => exact ⟨ha, .some (.located hline)⟩
        | some attributes => exact ⟨rfl, .none⟩
      · split
        · exact addEntry_alike copybook copybook' mapping mode (by exact ha) e
        · exact ⟨ha, .none⟩

theorem takeAll_alike {sentences sentences' : List Sentence}
    (hs : List.Forall₂ (Sentence.Same P) sentences sentences') {h h' : Harvest}
    (ha : h.attributes = h'.attributes) :
    Outcome.Alike P copybook copybook' (takeAll mapping mode copybook sentences h)
      (takeAll mapping mode copybook' sentences' h') := by
  induction hs generalizing h h' with
  | nil => exact ⟨ha, .none⟩
  | cons hfirst _ ih =>
    have htaken := take_alike copybook copybook' mapping mode hfirst ha
    rw [takeAll, takeAll]
    generalize take mapping mode copybook _ h = outcome at htaken ⊢
    generalize take mapping mode copybook' _ h' = outcome' at htaken ⊢
    obtain ⟨q, failure⟩ := outcome
    obtain ⟨q', failure'⟩ := outcome'
    obtain ⟨hattributes, hfailure⟩ := htaken
    cases hfailure with
    | none => exact ih hattributes
    | some hfailure => exact ⟨hattributes, .some hfailure⟩

/-- Copybooks that agree in what counts are harvested alike. -/
theorem ofLines_alike {lines lines' : List Text} (h : SameEssence lines lines') :
    Outcome.Alike (Counterparts lines lines') copybook copybook'
      (ofLines mapping mode copybook lines none) (ofLines mapping mode copybook' lines' none) := by
  obtain ⟨hclosed, hpending⟩ := Sentence.scan_same h
  have htaken : Outcome.Alike (Counterparts lines lines') copybook copybook'
      (takeAll mapping mode copybook (Sentence.scan lines).closed empty)
      (takeAll mapping mode copybook' (Sentence.scan lines').closed empty) :=
    takeAll_alike copybook copybook' mapping mode hclosed rfl
  unfold ofLines
  dsimp only
  generalize takeAll mapping mode copybook _ empty = outcome at htaken ⊢
  generalize takeAll mapping mode copybook' _ empty = outcome' at htaken ⊢
  obtain ⟨q, failure⟩ := outcome
  obtain ⟨q', failure'⟩ := outcome'
  obtain ⟨hattributes, hfailure⟩ := htaken
  cases hfailure with
  | some hfailure => exact ⟨hattributes, .some hfailure⟩
  | none =>
    refine takeAll_alike copybook copybook' mapping mode ?_ hattributes
    generalize (Sentence.scan lines).pending = pending at hpending ⊢
    generalize (Sentence.scan lines').pending = pending' at hpending ⊢
    cases hpending with
    | none => exact .nil
    | some hlast => exact .cons hlast .nil

end Harvest

end Copybook
