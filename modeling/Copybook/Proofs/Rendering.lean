import Copybook.Proofs.Harvest

/-!
What a harvest comes to. When it ends well, its attributes render the items of the copybook and
their condition names; when it ends at a malformed sentence, that is the first one. -/
namespace Copybook
namespace Harvest

variable {mapping : Mapping} {mode : CaseMode} {copybook : Text}
  {attributes attributes' : List Attribute} {rows rows' : List TypeRow}

theorem filter_isKept (entries : List Entry) :
    entries.filter isKept = (items entries).map (·.1) := by
  induction entries with
  | nil => rfl
  | cons e rest ih => cases hk : isKept e <;> simp [items, hk, ih]

theorem codesOf_eq (mode : CaseMode) (entries : List Entry) : codesOf mode entries =
    codesOf mode (behind entries) ++
      (items entries).flatMap fun item => codesOf mode (behind item.2) := by
  induction entries with
  | nil => rfl
  | cons e rest ih =>
    cases hk : isKept e with
    | true =>
      have hc := not_isCode_of_isKept hk
      rw [items_cons_kept _ hk, behind_cons_kept _ hk, codesOf_cons_other _ _ hc, List.flatMap_cons,
        ih]
      rfl
    | false =>
      rw [items_cons_other _ hk, behind_cons_other _ hk]
      cases hc : isCode e with
      | true => rw [codesOf_cons_code _ _ hc, codesOf_cons_code _ _ hc, ih, List.cons_append]
      | false => rw [codesOf_cons_other _ _ hc, codesOf_cons_other _ _ hc, ih]

structure Renders (mapping : Mapping) (mode : CaseMode) (entries : List Entry)
    (attributes : List Attribute) : Prop where
  /-- One attribute for each item, with what the item says. -/
  described : List.Forall₂
    (fun e a => attributeOf mapping mode e a.seqNo = .ok { a with codes := [] })
    (entries.filter isKept) attributes
  names : attributes.map (·.name) = (entries.filter isKept).map fun e => mode.convert e.name
  numbers : attributes.map (·.seqNo) = List.range' 1 attributes.length
  /-- Each code belongs to the last item before it. -/
  owned : attributes.map (·.codes) = (items entries).map fun item => codesOf mode (behind item.2)
  conserved : attributes.flatMap (·.codes) = codesOf mode entries

theorem forall₂_describes {its : List (Entry × List Entry)} {start : Nat} {new : List Attribute}
    (h : List.Forall₂ (Describes mapping mode) (its.zipIdx start) new) :
    List.Forall₂
        (fun item a => attributeOf mapping mode item.1 a.seqNo = .ok { a with codes := [] } ∧
          a.name = mode.convert item.1.name ∧ a.codes = codesOf mode (behind item.2)) its new ∧
      new.map (·.seqNo) = List.range' start new.length := by
  induction its generalizing start new with
  | nil => cases h; exact ⟨.nil, rfl⟩
  | cons item its ih =>
    cases h with
    | @cons _ a _ new hd htail =>
      obtain ⟨-, hnumber, hname⟩ := attributeOf_spec hd.1
      obtain ⟨hall, hnumbers⟩ := ih htail
      have hseq : a.seqNo = start := hnumber
      refine ⟨.cons ⟨hseq ▸ hd.1, hname, hd.2⟩ hall, ?_⟩
      rw [List.map_cons, hnumbers, hseq, List.length_cons, List.range'_succ]

theorem map_eq_of_forall₂ {α β γ : Type} {R : α → β → Prop} {f : β → γ} {g : α → γ} {xs : List α}
    {ys : List β} (h : List.Forall₂ R xs ys) (hfg : ∀ x y, R x y → f y = g x) :
    ys.map f = xs.map g := by
  induction h with
  | nil => rfl
  | cons hxy _ ih => rw [List.map_cons, List.map_cons, ih, hfg _ _ hxy]

theorem renders_of_describes {entries : List Entry} {new : List Attribute}
    (h : List.Forall₂ (Describes mapping mode) ((items entries).zipIdx 1) new)
    (hfirst : codesOf mode (behind entries) = []) : Renders mapping mode entries new := by
  obtain ⟨hall, hnumbers⟩ := forall₂_describes h
  have howned : new.map (·.codes) = (items entries).map fun item => codesOf mode (behind item.2) :=
    map_eq_of_forall₂ hall fun _ _ ha => ha.2.2
  refine ⟨?_, ?_, hnumbers, howned, ?_⟩
  · rw [filter_isKept, List.forall₂_map_left_iff]
    exact hall.imp fun _ _ ha => ha.1
  · rw [filter_isKept, List.map_map]
    exact map_eq_of_forall₂ hall fun _ _ ha => ha.2.1
  · rw [codesOf_eq, hfirst, List.nil_append, List.flatMap_def, List.flatMap_def, howned]

theorem Renders.eq_nil_iff {entries : List Entry} (h : Renders mapping mode entries attributes) :
    attributes = [] ↔ ∀ e ∈ entries, isKept e = false := by
  rw [← List.length_eq_zero_iff, ← h.described.length_eq, List.length_eq_zero_iff]
  simp

/-- What makes a sentence unacceptable behind entries that have been taken, and what is said about
it. -/
inductive Offends (before : List Entry) (s : Sentence) : Text → Prop
  | malformed {flaw : Flaw} : Entry.read s.text = .error (.malformed flaw) →
      Offends before s flaw.message
  | orphan {e : Entry} : Reads s e → isCode e = true → (∀ b ∈ before, isKept b = false) →
      Offends before s (Flaw.orphanCondition e.name).message

/-- A sentence that cannot be taken, when all sentences of words before it are in order. -/
inductive StopsAt (sentences : List Sentence) (s : Sentence) (text : Text) : Prop
  | first {before after : List Sentence} {entries : List Entry} :
      worded sentences = before ++ s :: after → List.Forall₂ Reads before entries →
      HasNoOrphan entries → Offends entries s text → StopsAt sentences s text

theorem toFailure_not_malformed {text : Text} {file : Option Text} {line : Nat}
    (failure : Rule.TemplateFailure) : failure.toFailure ≠ .problem (.malformed text file line) := by
  cases failure with
  | unclosed | numeral | notText => simp [Rule.TemplateFailure.toFailure]
  | invalid expression rule => cases rule <;> simp [Rule.TemplateFailure.toFailure]

theorem attributeOf_not_malformed {e : Entry} {seqNo line : Nat} {text : Text}
    {file : Option Text} : attributeOf mapping mode e seqNo ≠ .error (.problem (.malformed text file line)) := by
  cases mapping with
  | types => simp [attributeOf]
  | rules store =>
    simp only [attributeOf, mapEntry]
    split
    · simpa using toFailure_not_malformed _
    · dsimp only
      split
      · simpa using toFailure_not_malformed _
      · simp

theorem Taken.malformed {s : Sentence} {text : Text} {file : Option Text} {line : Nat}
    {entries : List Entry} (hnone : attributes = [] → ∀ e ∈ entries, isKept e = false)
    (h : Taken mapping mode copybook s attributes rows attributes' rows'
      (some (.problem (.malformed text file line)))) :
    s.text ≠ [] ∧ Offends entries s text ∧ file = some copybook ∧ line = s.line := by
  generalize hf : some (Failure.problem (.malformed text file line)) = result at h
  cases h with
  | empty | skipped | code | item => cases hf
  | @unreadable failure ht he =>
    cases failure with
    | numeral | repetition => simp [EntryFailure.toFailure] at hf
    | malformed flaw =>
      simp only [EntryFailure.toFailure, Option.some.injEq, Failure.problem.injEq,
        Problem.malformed.injEq] at hf
      obtain ⟨rfl, rfl, rfl⟩ := hf
      exact ⟨ht, .malformed he, rfl, rfl⟩
  | @orphan e ht he hc ha =>
    simp only [orphanFailure, EntryFailure.toFailure, Option.some.injEq, Failure.problem.injEq,
      Problem.malformed.injEq] at hf
    obtain ⟨rfl, rfl, rfl⟩ := hf
    exact ⟨ht, .orphan he hc (hnone ha), rfl, rfl⟩
  | unmapped _ _ _ hm =>
    obtain rfl := Option.some.inj hf
    exact absurd hm attributeOf_not_malformed

theorem ofLines_renders {lines : List Text}
    (h : (ofLines mapping mode copybook lines none).2 = none) :
    ∃ entries, List.Forall₂ Reads (worded (Sentence.ofLines lines)) entries ∧ HasNoOrphan entries ∧
      Renders mapping mode entries (ofLines mapping mode copybook lines none).1.attributes := by
  have hrun := run_ofLines mapping mode copybook lines
  rw [h] at hrun
  obtain ⟨entries, new, hreads, hnew, hfirst, -⟩ := hrun.kept
  obtain ⟨hbehind, hattributes⟩ := hfirst rfl
  refine ⟨entries, hreads, hasNoOrphan hbehind, ?_⟩
  rw [hattributes]
  exact renders_of_describes hnew hbehind

/-- A harvest that ends well has an attribute for each item and a code for each condition name with
a name and a value; one that ends at a malformed sentence ends at the first. -/
theorem ofLines_spec (mapping : Mapping) (mode : CaseMode) (copybook : Text) (lines : List Text) :
    ((ofLines mapping mode copybook lines none).2 = none →
      ∃ entries, List.Forall₂ Reads (worded (Sentence.ofLines lines)) entries ∧
        HasNoOrphan entries ∧
        Renders mapping mode entries (ofLines mapping mode copybook lines none).1.attributes) ∧
    ∀ text file line,
      (ofLines mapping mode copybook lines none).2 = some (.problem (.malformed text file line)) →
        ∃ s, StopsAt (Sentence.ofLines lines) s text ∧ file = some copybook ∧ line = s.line := by
  refine ⟨ofLines_renders, fun text file line hresult => ?_⟩
  have hrun := run_ofLines mapping mode copybook lines
  rw [hresult] at hrun
  obtain ⟨before, s, after, hcut, hbefore, hstop⟩ := hrun.cut
  obtain ⟨entries, new, hreads, hnew, hfirst, -⟩ := hbefore.kept
  obtain ⟨hbehind, hattributes⟩ := hfirst rfl
  have hrenders := renders_of_describes hnew hbehind
  rw [← hattributes] at hrenders
  obtain ⟨ht, hoffends, hfile, hline⟩ := hstop.malformed hrenders.eq_nil_iff.mp
  have hwords : worded (Sentence.ofLines lines) = worded before ++ s :: worded after := by
    rw [hcut, worded_append, worded_cons ht]
  exact ⟨s, .first hwords hreads (hasNoOrphan hbehind) hoffends, hfile, hline⟩

def sampleLines : List Text :=
  ["       01 REC.", "       05 A PIC X.", "       88 YES VALUE 'Y'.", "       05 B PIC 9(3)."]

def orphanLines : List Text := ["       01 REC.", "", "       88 YES VALUE 'Y'."]

theorem ofLines_spec_sample :
    ((ofLines .types .mixed "C" sampleLines none).2 = none ∧
      ∃ entries, List.Forall₂ Reads (worded (Sentence.ofLines sampleLines)) entries ∧
        HasNoOrphan entries ∧
        Renders .types .mixed entries (ofLines .types .mixed "C" sampleLines none).1.attributes) ∧
    (ofLines .types .mixed "C" orphanLines none).2 =
      some (.problem (.malformed "condition name YES has no preceding data item" (some "C") 3)) ∧
    ∃ s, StopsAt (Sentence.ofLines orphanLines) s "condition name YES has no preceding data item" ∧
      s.line = 3 := by
  have hends : (ofLines .types .mixed "C" sampleLines none).2 = none := by decide +kernel
  have hstops : (ofLines .types .mixed "C" orphanLines none).2 =
      some (.problem (.malformed "condition name YES has no preceding data item" (some "C") 3)) := by
    decide +kernel
  obtain ⟨s, hs, -, hline⟩ := (ofLines_spec .types .mixed "C" orphanLines).2 _ _ _ hstops
  exact ⟨⟨hends, (ofLines_spec .types .mixed "C" sampleLines).1 hends⟩, hstops, s, hs, hline.symm⟩

end Harvest
end Copybook
