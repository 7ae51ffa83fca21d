import Copybook.Proofs.Rendering

/-!
Which sentences a harvest takes. It takes them all exactly when each can be read, no code stands
before the first item, and every item has a type; otherwise it stops at the first one that it
refuses. -/
namespace Copybook
namespace Harvest

/-- Sentences that are all taken, and the entries as which they are read. -/
structure CanTake (mapping : Mapping) (mode : CaseMode) (sentences : List Sentence)
    (entries : List Entry) : Prop where
  reads : List.Forall₂ Reads (worded sentences) entries
  noOrphan : HasNoOrphan entries
  mapped : ∀ e ∈ entries, isKept e = true → ∃ a, attributeOf mapping mode e 1 = .ok a

inductive Refuses (mapping : Mapping) (mode : CaseMode) (copybook : Text) (before : List Entry)
    (s : Sentence) : Failure → Prop
  | unreadable {failure : EntryFailure} : s.text ≠ [] → Entry.read s.text = .error failure →
      Refuses mapping mode copybook before s (failure.toFailure (some copybook) s.line)
  | orphan {e : Entry} : Reads s e → isCode e = true → (∀ b ∈ before, isKept b = false) →
      Refuses mapping mode copybook before s (orphanFailure copybook s e)
  | unmapped {e : Entry} {failure : Failure} : Reads s e → isKept e = true →
      attributeOf mapping mode e 1 = .error failure → Refuses mapping mode copybook before s failure

variable {mapping : Mapping} {mode : CaseMode} {copybook : Text}
  {attributes attributes' : List Attribute} {rows rows' : List TypeRow}
  {sentences before after : List Sentence} {s : Sentence} {entries : List Entry}

theorem attributeOf_seqNo (e : Entry) (n m : Nat) : attributeOf mapping mode e n =
    (attributeOf mapping mode e m).map fun a => { a with seqNo := n } := by
  cases mapping with
  | types => rfl
  | rules store =>
    simp only [attributeOf, mapEntry]
    split
    · rfl
    · dsimp only
      split <;> rfl

theorem attributeOf_error {e : Entry} {failure : Failure} {n : Nat} (m : Nat)
    (h : attributeOf mapping mode e n = .error failure) :
    attributeOf mapping mode e m = .error failure := by
  rw [attributeOf_seqNo e m n, h]
  rfl

theorem attributeOf_ok {e : Entry} {a : Attribute} {n : Nat} (m : Nat)
    (h : attributeOf mapping mode e n = .ok a) :
    attributeOf mapping mode e m = .ok { a with seqNo := m } := by
  rw [attributeOf_seqNo e m n, h]
  rfl

theorem Reads.text_ne_nil {e : Entry} (h : Reads s e) : s.text ≠ [] := by
  intro ht
  rw [Reads, ht] at h
  cases h

theorem Taken.refuses {failure : Failure}
    (hnone : attributes = [] → ∀ e ∈ entries, isKept e = false)
    (h : Taken mapping mode copybook s attributes rows attributes' rows' (some failure)) :
    Refuses mapping mode copybook entries s failure := by
  cases h with
  | unreadable ht he => exact .unreadable ht he
  | orphan ht he hc ha => exact .orphan he hc (hnone ha)
  | unmapped ht he hk hm => exact .unmapped he hk (attributeOf_error 1 hm)

theorem reads_rightUnique : Relator.RightUnique Reads :=
  fun _ _ _ h₁ h₂ => Except.ok.inj (h₁.symm.trans h₂)

theorem Taken.result_of_reads {e : Entry} {result : Option Failure} (he : Reads s e)
    (h : Taken mapping mode copybook s attributes rows attributes' rows' result) : result =
      if isCode e then if attributes = [] then some (orphanFailure copybook s e) else none
      else if isKept e then
        match attributeOf mapping mode e (attributes.length + 1) with
        | .error failure => some failure
        | .ok _ => none
      else none := by
  cases h with
  | empty ht => exact absurd ht he.text_ne_nil
  | unreadable _ hfail => simp [Reads, hfail] at he
  | skipped _ he' hc hk =>
    obtain rfl := reads_rightUnique he he'
    simp [hc, hk]
  | code _ he' hc ha =>
    obtain rfl := reads_rightUnique he he'
    simp [hc, ha]
  | item _ he' hk hm =>
    obtain rfl := reads_rightUnique he he'
    simp [hk, not_isCode_of_isKept hk, hm]
  | orphan _ he' hc ha =>
    obtain rfl := reads_rightUnique he he'
    simp [hc, ha]
  | unmapped _ he' hk hm =>
    obtain rfl := reads_rightUnique he he'
    simp [hk, not_isCode_of_isKept hk, hm]

theorem Refuses.taken {failure : Failure} {result : Option Failure}
    (h : Refuses mapping mode copybook entries s failure)
    (hnone : (∀ e ∈ entries, isKept e = false) → attributes = [])
    (ht : Taken mapping mode copybook s attributes rows attributes' rows' result) :
    result = some failure := by
  cases h with
  | unreadable hw hfail =>
    cases ht with
    | empty h => exact absurd h hw
    | skipped _ he | code _ he | item _ he | orphan _ he | unmapped _ he => simp [he] at hfail
    | unreadable _ he =>
      obtain rfl := Except.error.inj (he.symm.trans hfail)
      rfl
  | orphan he hc hkept => simp [ht.result_of_reads he, hc, hnone hkept]
  | unmapped he hk hm =>
    simp [ht.result_of_reads he, hk, not_isCode_of_isKept hk, attributeOf_error _ hm]

theorem exists_of_forall₂ {α β : Type} {R : α → β → Prop} {xs : List α} {ys : List β}
    (h : List.Forall₂ R xs ys) {x : α} (hx : x ∈ xs) : ∃ y ∈ ys, R x y := by
  induction h with
  | nil => cases hx
  | @cons x' y xs ys hxy _ ih =>
    rcases List.mem_cons.mp hx with rfl | hx
    · exact ⟨y, List.mem_cons_self, hxy⟩
    · obtain ⟨z, hz, hxz⟩ := ih hx
      exact ⟨z, List.mem_cons_of_mem _ hz, hxz⟩

theorem Run.canTake (h : Run mapping mode copybook sentences [] [] attributes rows none) :
    ∃ entries, CanTake mapping mode sentences entries ∧
      (attributes = [] ↔ ∀ e ∈ entries, isKept e = false) := by
  obtain ⟨entries, new, hreads, hnew, hfirst, -⟩ := h.kept
  obtain ⟨hbehind, rfl⟩ := hfirst rfl
  have hrenders := renders_of_describes hnew hbehind
  refine ⟨entries, ⟨hreads, hasNoOrphan hbehind, ?_⟩, hrenders.eq_nil_iff⟩
  intro e he hk
  obtain ⟨a, -, ha⟩ := exists_of_forall₂ hrenders.described (List.mem_filter.mpr ⟨he, hk⟩)
  exact ⟨_, attributeOf_ok 1 ha⟩

theorem forall₂_append_left {α β : Type} {R : α → β → Prop} {xs xs' : List α} {ys : List β}
    (h : List.Forall₂ R (xs ++ xs') ys) :
    ∃ zs zs', ys = zs ++ zs' ∧ List.Forall₂ R xs zs ∧ List.Forall₂ R xs' zs' := by
  induction xs generalizing ys with
  | nil => exact ⟨[], ys, rfl, .nil, h⟩
  | cons x xs ih =>
    obtain ⟨y, ys', hxy, htail, rfl⟩ := List.forall₂_cons_left_iff.mp h
    obtain ⟨zs, zs', rfl, hzs, hzs'⟩ := ih htail
    exact ⟨y :: zs, zs', rfl, .cons hxy hzs, hzs'⟩

theorem CanTake.not_refuses {earlier : List Entry} {failure : Failure}
    (h : CanTake mapping mode (before ++ s :: after) entries)
    (hearlier : CanTake mapping mode before earlier) :
    ¬ Refuses mapping mode copybook earlier s failure := by
  intro hrefuses
  have hs : s.text ≠ [] := by
    cases hrefuses with
    | unreadable ht => exact ht
    | orphan he | unmapped he => exact he.text_ne_nil
  have hreads := h.reads
  rw [worded_append, worded_cons hs] at hreads
  obtain ⟨first, others, rfl, hfirst, hothers⟩ := forall₂_append_left hreads
  obtain rfl := List.right_unique_forall₂' reads_rightUnique hfirst hearlier.reads
  obtain ⟨e, rest, he, -, rfl⟩ := List.forall₂_cons_left_iff.mp hothers
  cases hrefuses with
  | unreadable _ hfail => simp [Reads, hfail] at he
  | orphan he' hc hnone =>
    obtain rfl := reads_rightUnique he he'
    obtain ⟨k, hk, hkept⟩ := h.noOrphan first e rest rfl hc
    simp [hnone k hk] at hkept
  | unmapped he' hk hm =>
    obtain rfl := reads_rightUnique he he'
    obtain ⟨a, ha⟩ := h.mapped e (by simp) hk
    simp [hm] at ha

theorem Run.eq_none {result : Option Failure} (hcan : CanTake mapping mode sentences entries)
    (h : Run mapping mode copybook sentences [] [] attributes rows result) : result = none := by
  cases result with
  | none => rfl
  | some failure =>
    obtain ⟨before, s, after, rfl, hbefore, hstop⟩ := h.cut
    obtain ⟨earlier, hearlier, hnone⟩ := hbefore.canTake
    exact absurd (hstop.refuses hnone.mp) (hcan.not_refuses hearlier)

theorem Run.eq_none_iff {result : Option Failure}
    (h : Run mapping mode copybook sentences [] [] attributes rows result) :
    result = none ↔ ∃ entries, CanTake mapping mode sentences entries := by
  refine ⟨?_, fun ⟨entries, hcan⟩ => h.eq_none hcan⟩
  rintro rfl
  obtain ⟨entries, hcan, -⟩ := h.canTake
  exact ⟨entries, hcan⟩

theorem Run.split {result : Option Failure} {attributes₁ : List Attribute} {rows₁ : List TypeRow}
    (h : Run mapping mode copybook (before ++ after) attributes₁ rows₁ attributes' rows' result) :
    (∃ failure, result = some failure ∧
      Run mapping mode copybook before attributes₁ rows₁ attributes' rows' (some failure)) ∨
    ∃ attributes rows, Run mapping mode copybook before attributes₁ rows₁ attributes rows none ∧
      Run mapping mode copybook after attributes rows attributes' rows' result := by
  induction before generalizing attributes₁ rows₁ with
  | nil => exact .inr ⟨_, _, .done _ _, h⟩
  | cons s before ih =>
    cases h with
    | stop ht => exact .inl ⟨_, rfl, .stop ht⟩
    | next ht hrest =>
      rcases ih hrest with ⟨failure, rfl, hbefore⟩ | ⟨attributes, rows, hbefore, hafter⟩
      · exact .inl ⟨failure, rfl, .next ht hbefore⟩
      · exact .inr ⟨attributes, rows, .next ht hbefore, hafter⟩

/-- A run stops exactly at the first sentence that is refused. -/
theorem Run.eq_some_iff {result : Option Failure} (failure : Failure)
    (h : Run mapping mode copybook sentences [] [] attributes rows result) :
    result = some failure ↔ ∃ before s after entries, sentences = before ++ s :: after ∧
      CanTake mapping mode before entries ∧ Refuses mapping mode copybook entries s failure := by
  constructor
  · rintro rfl
    obtain ⟨before, s, after, hcut, hbefore, hstop⟩ := h.cut
    obtain ⟨entries, hcan, hnone⟩ := hbefore.canTake
    exact ⟨before, s, after, entries, hcut, hcan, hstop.refuses hnone.mp⟩
  · rintro ⟨before, s, after, entries, rfl, hcan, hrefuses⟩
    rcases h.split with ⟨_, -, hbefore⟩ | ⟨attributes₁, rows₁, hbefore, hafter⟩
    · exact absurd (hbefore.eq_none hcan) (by simp)
    obtain ⟨earlier, hearlier, hnone⟩ := hbefore.canTake
    obtain rfl := List.right_unique_forall₂' reads_rightUnique hearlier.reads hcan.reads
    cases hafter with
    | stop ht => exact hrefuses.taken hnone.mpr ht
    | next ht => exact absurd (hrefuses.taken hnone.mpr ht) (by simp)

/-- The sentences that lines hold; when they break off, the one that is still open is lost. -/
def delivered {α : Type} (lines : List Text) : Option α → List Sentence
  | none => Sentence.ofLines lines
  | some _ => (Sentence.scan lines).closed

/-- A harvest fails at the first sentence that it refuses, and else when the lines break off. -/
theorem ofLines_eq_some_iff (lines : List Text) (broken : Option Failure) (failure : Failure) :
    (ofLines mapping mode copybook lines broken).2 = some failure ↔
      (∃ before s after entries, delivered lines broken = before ++ s :: after ∧
        CanTake mapping mode before entries ∧ Refuses mapping mode copybook entries s failure) ∨
      broken = some failure ∧ ∃ entries, CanTake mapping mode (delivered lines broken) entries := by
  cases broken with
  | none =>
    have hrun := run_ofLines mapping mode copybook lines
    simpa [delivered] using Run.eq_some_iff failure hrun
  | some failure' =>
    have hrun := run_takeAll mapping mode copybook (Sentence.scan lines).closed empty
    rw [ofLines_broken]
    generalize takeAll mapping mode copybook (Sentence.scan lines).closed empty = outcome at hrun ⊢
    have hnone := Run.eq_none_iff hrun
    have hsome := Run.eq_some_iff failure hrun
    obtain ⟨h, result⟩ := outcome
    rw [delivered, ← hsome, ← hnone]
    cases result <;> simp

end Harvest
end Copybook
