import Copybook.Harvest
import Mathlib.Data.List.Forall2

/-!
What a harvest makes of the entries of a copybook. Taking up one sentence has few outcomes; a run
over all sentences either keeps every item as an attribute, with the codes that stand behind it, or
stops at the first sentence that it cannot take. -/
namespace Copybook
namespace Harvest

def isKept (e : Entry) : Bool := isItem e && !isCode e

/-- The attribute of an entry, as long as it has no codes. -/
def attributeOf (mapping : Mapping) (mode : CaseMode) (e : Entry) (seqNo : Nat) :
    Except Failure Attribute :=
  match mapping with
  | .types => .ok { name := mode.convert e.name, seqNo := seqNo }
  | .rules store => (mapEntry store mode e seqNo).result

def rowsOf (mapping : Mapping) (e : Entry) : List TypeRow :=
  match mapping with
  | .types => [typeRow e]
  | .rules _ => []

def codeOf (mode : CaseMode) (e : Entry) : Code := ⟨mode.convert e.value, mode.convert e.name⟩

def codesOf (mode : CaseMode) (entries : List Entry) : List Code :=
  (entries.filter isCode).map (codeOf mode)

def orphanFailure (copybook : Text) (s : Sentence) (e : Entry) : Failure :=
  (EntryFailure.malformed (.orphanCondition e.name)).toFailure (some copybook) s.line

section

variable (mapping : Mapping) (mode : CaseMode) (copybook : Text)

/-- What becomes of attributes and rows when a sentence is taken up. -/
inductive Taken (s : Sentence) (attributes : List Attribute) (rows : List TypeRow) :
    List Attribute → List TypeRow → Option Failure → Prop
  | empty : s.text = [] → Taken s attributes rows attributes rows none
  | skipped {e : Entry} : s.text ≠ [] → Entry.read s.text = .ok e → isCode e = false →
      isKept e = false → Taken s attributes rows attributes rows none
  | code {e : Entry} {init : List Attribute} {last : Attribute} : s.text ≠ [] →
      Entry.read s.text = .ok e → isCode e = true → attributes = init ++ [last] →
      Taken s attributes rows (init ++ [last.addCode (codeOf mode e)]) rows none
  | item {e : Entry} {a : Attribute} : s.text ≠ [] → Entry.read s.text = .ok e →
      isKept e = true → attributeOf mapping mode e (attributes.length + 1) = .ok a →
      Taken s attributes rows (attributes ++ [a]) (rows ++ rowsOf mapping e) none
  | unreadable {failure : EntryFailure} : s.text ≠ [] → Entry.read s.text = .error failure →
      Taken s attributes rows attributes rows (some (failure.toFailure (some copybook) s.line))
  | orphan {e : Entry} : s.text ≠ [] → Entry.read s.text = .ok e → isCode e = true →
      attributes = [] → Taken s attributes rows attributes rows (some (orphanFailure copybook s e))
  | unmapped {e : Entry} {failure : Failure} : s.text ≠ [] → Entry.read s.text = .ok e →
      isKept e = true → attributeOf mapping mode e (attributes.length + 1) = .error failure →
      Taken s attributes rows attributes rows (some failure)

/-- Sentences taken up until one of them fails. -/
inductive Run : List Sentence → List Attribute → List TypeRow → List Attribute → List TypeRow →
    Option Failure → Prop
  | done (attributes : List Attribute) (rows : List TypeRow) :
      Run [] attributes rows attributes rows none
  | stop {s : Sentence} {rest : List Sentence} {attributes attributes' : List Attribute}
      {rows rows' : List TypeRow} {failure : Failure} :
      Taken mapping mode copybook s attributes rows attributes' rows' (some failure) →
      Run (s :: rest) attributes rows attributes' rows' (some failure)
  | next {s : Sentence} {rest : List Sentence} {attributes attributes' attributes'' : List Attribute}
      {rows rows' rows'' : List TypeRow} {failure : Option Failure} :
      Taken mapping mode copybook s attributes rows attributes' rows' none →
      Run rest attributes' rows' attributes'' rows'' failure →
      Run (s :: rest) attributes rows attributes'' rows'' failure

end

theorem addCode_concat (code : Code) (init : List Attribute) (last : Attribute) :
    addCode code (init ++ [last]) = some (init ++ [last.addCode code]) := by
  induction init with
  | nil => rfl
  | cons a init ih => cases init <;> simp_all [addCode]

variable {mapping : Mapping} {mode : CaseMode} {copybook : Text}

theorem taken_addEntry {s : Sentence} {e : Entry} (ht : s.text ≠ [])
    (he : Entry.read s.text = .ok e) (hk : isKept e = true) (h : Harvest) :
    Taken mapping mode copybook s h.attributes h.rows (addEntry mapping mode e h).1.attributes
      (addEntry mapping mode e h).1.rows (addEntry mapping mode e h).2 := by
  cases mapping with
  | types => exact .item ht he hk rfl
  | rules store =>
    simp only [addEntry]
    split
    · rename_i failure hm
      exact .unmapped ht he hk hm
    · rename_i a hm
      have hi : Taken (.rules store) mode copybook s h.attributes h.rows _ _ none :=
        .item ht he hk hm
      simpa [note, rowsOf] using hi

section

variable (mapping mode copybook)

theorem taken_take (s : Sentence) (h : Harvest) :
    Taken mapping mode copybook s h.attributes h.rows (take mapping mode copybook s h).1.attributes
      (take mapping mode copybook s h).1.rows (take mapping mode copybook s h).2 := by
  unfold take
  by_cases ht : s.text = []
  · simpa [ht] using Taken.empty ht
  rw [if_neg (by simpa using ht)]
  cases he : Entry.read s.text with
  | error failure => exact .unreadable ht he
  | ok e =>
    cases hc : isCode e with
    | true =>
      rcases List.eq_nil_or_concat h.attributes with ha | ⟨init, last, ha⟩
      · have ho : Taken mapping mode copybook s h.attributes h.rows _ _ _ := .orphan ht he hc ha
        simpa [hc, ha, note, addCode, orphanFailure] using ho
      · rw [List.concat_eq_append] at ha
        have hadd : addCode ⟨mode.convert e.value, mode.convert e.name⟩ h.attributes =
            some (init ++ [last.addCode (codeOf mode e)]) := by
          rw [ha]
          exact addCode_concat _ _ _
        have ht' : Taken mapping mode copybook s h.attributes h.rows _ _ none :=
          .code ht he hc ha
        simpa [hc, note, hadd] using ht'
    | false =>
      cases hi : isItem e with
      | true =>
        have hk : isKept e = true := by simp [isKept, hc, hi]
        simpa [hc, hi, note] using taken_addEntry ht he hk (h.note e.notes)
      | false =>
        have hk : isKept e = false := by simp [isKept, hi]
        simpa [hc, hi, note] using Taken.skipped ht he hc hk

theorem run_takeAll (sentences : List Sentence) (h : Harvest) :
    Run mapping mode copybook sentences h.attributes h.rows
      (takeAll mapping mode copybook sentences h).1.attributes
      (takeAll mapping mode copybook sentences h).1.rows
      (takeAll mapping mode copybook sentences h).2 := by
  induction sentences generalizing h with
  | nil => exact .done _ _
  | cons s rest ih =>
    have ht := taken_take mapping mode copybook s h
    rw [takeAll]
    generalize take mapping mode copybook s h = outcome at ht ⊢
    obtain ⟨h', result⟩ := outcome
    cases result with
    | none => exact .next ht (ih h')
    | some failure => exact .stop ht

end

variable {before after : List Sentence} {attributes attributes' attributes'' : List Attribute}
  {rows rows' rows'' : List TypeRow}

theorem Run.append {failure : Option Failure}
    (h₁ : Run mapping mode copybook before attributes rows attributes' rows' none)
    (h₂ : Run mapping mode copybook after attributes' rows' attributes'' rows'' failure) :
    Run mapping mode copybook (before ++ after) attributes rows attributes'' rows'' failure := by
  generalize hn : (none : Option Failure) = result at h₁
  induction h₁ with
  | done => exact h₂
  | stop => cases hn
  | next ht _ ih => exact .next ht (ih h₂ hn)

theorem Run.append_stop {failure : Failure}
    (h : Run mapping mode copybook before attributes rows attributes' rows' (some failure)) :
    Run mapping mode copybook (before ++ after) attributes rows attributes' rows'
      (some failure) := by
  generalize hs : some failure = result at h
  induction h with
  | done => cases hs
  | stop ht => exact .stop ht
  | next ht _ ih => exact .next ht (ih hs)

theorem run_ofLines (mapping : Mapping) (mode : CaseMode) (copybook : Text) (lines : List Text) :
    Run mapping mode copybook (Sentence.ofLines lines) [] []
      (ofLines mapping mode copybook lines none).1.attributes
      (ofLines mapping mode copybook lines none).1.rows
      (ofLines mapping mode copybook lines none).2 := by
  have hclosed := run_takeAll mapping mode copybook (Sentence.scan lines).closed empty
  rw [ofLines, Sentence.ofLines]
  generalize takeAll mapping mode copybook (Sentence.scan lines).closed empty = outcome at hclosed ⊢
  obtain ⟨h, result⟩ := outcome
  cases result with
  | none => exact hclosed.append (run_takeAll _ _ _ _ (h.note (Sentence.scan lines).notes))
  | some failure => exact hclosed.append_stop

theorem ofLines_broken (lines : List Text) (failure : Failure) :
    (ofLines mapping mode copybook lines (some failure)).2 =
      some ((takeAll mapping mode copybook (Sentence.scan lines).closed empty).2.getD failure) := by
  rw [ofLines]
  generalize takeAll mapping mode copybook (Sentence.scan lines).closed empty = outcome
  obtain ⟨h, result⟩ := outcome
  cases result <;> rfl

theorem broken_eq_none_of_ofLines {lines : List Text} {broken : Option Failure}
    (h : (ofLines mapping mode copybook lines broken).2 = none) : broken = none := by
  cases broken with
  | none => rfl
  | some failure =>
    rw [ofLines_broken] at h
    cases h

def Reads (s : Sentence) (e : Entry) : Prop := Entry.read s.text = .ok e

def worded (sentences : List Sentence) : List Sentence :=
  sentences.filter fun s => !s.text.isEmpty

/-- The entries up to the next one that becomes an attribute. -/
def behind (entries : List Entry) : List Entry := entries.takeWhile fun e => !isKept e

/-- The entries that become attributes, each with all entries after it. -/
def items : List Entry → List (Entry × List Entry)
  | [] => []
  | e :: rest => if isKept e then (e, rest) :: items rest else items rest

/-- Whether an attribute is that of an item: what the entry says, under a number, and the codes
behind it. -/
def Describes (mapping : Mapping) (mode : CaseMode) (item : (Entry × List Entry) × Nat)
    (a : Attribute) : Prop :=
  attributeOf mapping mode item.1.1 item.2 = .ok { a with codes := [] } ∧
    a.codes = codesOf mode (behind item.1.2)

theorem worded_cons_empty {s : Sentence} (h : s.text = []) (rest : List Sentence) :
    worded (s :: rest) = worded rest := by simp [worded, h]

theorem worded_cons {s : Sentence} (h : s.text ≠ []) (rest : List Sentence) :
    worded (s :: rest) = s :: worded rest := by simp [worded, h]

theorem worded_append (before after : List Sentence) :
    worded (before ++ after) = worded before ++ worded after := List.filter_append ..

section Cons

variable {e : Entry} (rest : List Entry)

theorem not_isKept_of_isCode (h : isCode e = true) : isKept e = false := by simp [isKept, h]

theorem not_isCode_of_isKept (h : isKept e = true) : isCode e = false := by
  cases hc : isCode e with
  | false => rfl
  | true => simp [isKept, hc] at h

theorem items_cons_kept (h : isKept e = true) : items (e :: rest) = (e, rest) :: items rest := by
  simp [items, h]

theorem items_cons_other (h : isKept e = false) : items (e :: rest) = items rest := by
  simp [items, h]

theorem behind_cons_kept (h : isKept e = true) : behind (e :: rest) = [] := by simp [behind, h]

theorem behind_cons_other (h : isKept e = false) : behind (e :: rest) = e :: behind rest := by
  simp [behind, h]

theorem codesOf_cons_code (mode : CaseMode) (h : isCode e = true) :
    codesOf mode (e :: rest) = codeOf mode e :: codesOf mode rest := by simp [codesOf, h]

theorem codesOf_cons_other (mode : CaseMode) (h : isCode e = false) :
    codesOf mode (e :: rest) = codesOf mode rest := by simp [codesOf, h]

end Cons

theorem attributeOf_spec {e : Entry} {seqNo : Nat} {a : Attribute}
    (h : attributeOf mapping mode e seqNo = .ok a) :
    a.codes = [] ∧ a.seqNo = seqNo ∧ a.name = mode.convert e.name := by
  cases mapping with
  | types =>
    obtain rfl := Except.ok.inj h
    exact ⟨rfl, rfl, rfl⟩
  | rules store =>
    simp only [attributeOf, mapEntry] at h
    split at h
    · cases h
    · dsimp only at h
      split at h
      · cases h
      · obtain rfl := Except.ok.inj h
        exact ⟨rfl, rfl, rfl⟩

/-- What a run that takes all sentences leaves: codes that stand before the first item go to the
last attribute that was there before, and every item becomes an attribute behind it. -/
theorem Run.kept {sentences : List Sentence}
    (h : Run mapping mode copybook sentences attributes rows attributes' rows' none) :
    ∃ entries new, List.Forall₂ Reads (worded sentences) entries ∧
      List.Forall₂ (Describes mapping mode) ((items entries).zipIdx (attributes.length + 1)) new ∧
      (attributes = [] → codesOf mode (behind entries) = [] ∧ attributes' = new) ∧
      ∀ init last, attributes = init ++ [last] → attributes' = init ++
        { last with codes := last.codes ++ codesOf mode (behind entries) } :: new := by
  generalize hn : (none : Option Failure) = result at h
  -- the last attribute stays open: the sentences that follow decide what codes it gets
  induction h with
  | done attributes rows =>
    refine ⟨[], [], .nil, .nil, fun ha => ⟨rfl, ha⟩, ?_⟩
    intro init last ha
    simp [ha, codesOf, behind]
  | stop => cases hn
  | @next s rest attributes attributes₁ attributes₂ rows rows₁ rows₂ failure ht _ ih =>
    obtain ⟨entries, new, hreads, hnew, hnil, hlast⟩ := ih hn
    cases ht with
    | empty ht =>
      rw [worded_cons_empty ht]
      exact ⟨entries, new, hreads, hnew, hnil, hlast⟩
    | @skipped e ht he hc hk =>
      rw [worded_cons ht]
      refine ⟨e :: entries, new, .cons he hreads, ?_⟩
      rw [items_cons_other _ hk, behind_cons_other _ hk, codesOf_cons_other _ _ hc]
      exact ⟨hnew, hnil, hlast⟩
    | @code e init last ht he hc ha =>
      have hk := not_isKept_of_isCode hc
      rw [worded_cons ht]
      refine ⟨e :: entries, new, .cons he hreads, ?_⟩
      rw [items_cons_other _ hk, behind_cons_other _ hk, codesOf_cons_code _ _ hc]
      refine ⟨by simpa [ha] using hnew, fun hn => by simp [ha] at hn, ?_⟩
      intro init' last' ha'
      obtain ⟨rfl, hl⟩ := List.append_inj' (ha.symm.trans ha') rfl
      obtain rfl : last = last' := by simpa using hl
      simpa [Attribute.addCode] using hlast init _ rfl
    | @item e a ht he hk hm =>
      have hc := not_isCode_of_isKept hk
      obtain ⟨hcodes, -, -⟩ := attributeOf_spec hm
      have hall := hlast attributes a rfl
      rw [worded_cons ht]
      refine ⟨e :: entries, { a with codes := codesOf mode (behind entries) } :: new,
        .cons he hreads, ?_⟩
      rw [items_cons_kept _ hk, behind_cons_kept _ hk]
      refine ⟨?_, ?_, ?_⟩
      · refine .cons ⟨?_, rfl⟩ (by simpa using hnew)
        rw [hm, ← hcodes]
      · rintro rfl
        simpa [codesOf, hcodes] using hall
      · rintro init last rfl
        simpa [codesOf, hcodes] using hall

theorem Run.cut {sentences : List Sentence} {failure : Failure}
    (h : Run mapping mode copybook sentences attributes rows attributes' rows' (some failure)) :
    ∃ before s after, sentences = before ++ s :: after ∧
      Run mapping mode copybook before attributes rows attributes' rows' none ∧
      Taken mapping mode copybook s attributes' rows' attributes' rows' (some failure) := by
  generalize hs : some failure = result at h
  induction h with
  | done => cases hs
  | @stop s rest attributes attributes' rows rows' failure' ht =>
    obtain rfl := Option.some.inj hs
    refine ⟨[], s, rest, rfl, ?_⟩
    cases ht with
    | unreadable ht he => exact ⟨.done _ _, .unreadable ht he⟩
    | orphan ht he hc ha => exact ⟨.done _ _, .orphan ht he hc ha⟩
    | unmapped ht he hk hm => exact ⟨.done _ _, .unmapped ht he hk hm⟩
  | @next s rest _ _ _ _ _ _ _ ht _ ih =>
    obtain ⟨before, s', after, hcut, hrun, hstop⟩ := ih hs
    exact ⟨s :: before, s', after, by rw [hcut, List.cons_append], .next ht hrun, hstop⟩

def HasNoOrphan (entries : List Entry) : Prop :=
  ∀ before e after, entries = before ++ e :: after → isCode e = true → ∃ k ∈ before, isKept k = true

theorem forall_cut_cons_iff {α : Type} {x : α} {xs : List α} {P : List α → α → List α → Prop} :
    (∀ before y after, x :: xs = before ++ y :: after → P before y after) ↔
      P [] x xs ∧ ∀ before y after, xs = before ++ y :: after → P (x :: before) y after := by
  constructor
  · intro h
    exact ⟨h [] x xs rfl, fun before y after hcut => h (x :: before) y after (by rw [hcut]; rfl)⟩
  · rintro ⟨hfirst, hrest⟩ before y after hcut
    cases before with
    | nil =>
      obtain ⟨rfl, rfl⟩ := List.cons.inj hcut
      exact hfirst
    | cons z before =>
      obtain ⟨rfl, htail⟩ := List.cons.inj hcut
      exact hrest before y after htail

theorem codesOf_takeWhile_eq_nil_iff (mode : CaseMode) {p : Entry → Bool}
    (hp : ∀ e, isCode e = true → p e = true) (entries : List Entry) :
    codesOf mode (entries.takeWhile p) = [] ↔ ∀ before e after, entries = before ++ e :: after →
      isCode e = true → ∃ x ∈ before, p x = false := by
  induction entries with
  | nil => simp [codesOf]
  | cons e rest ih =>
    rw [forall_cut_cons_iff]
    cases hpe : p e with
    | false =>
      have hc : isCode e ≠ true := fun h => by simp [hp e h] at hpe
      simp [hpe, hc, codesOf]
    | true =>
      rw [List.takeWhile_cons_of_pos hpe]
      cases hc : isCode e with
      | true => simp [codesOf, hc]
      | false => simp [codesOf_cons_other _ _ hc, ih, hpe]

theorem hasNoOrphan {mode : CaseMode} {entries : List Entry}
    (h : codesOf mode (behind entries) = []) : HasNoOrphan entries := by
  have hcodes := (codesOf_takeWhile_eq_nil_iff mode
    (fun e he => by rw [not_isKept_of_isCode he]; rfl) entries).mp h
  simpa [HasNoOrphan] using hcodes

end Harvest
end Copybook
