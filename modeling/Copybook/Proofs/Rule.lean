import Copybook.Proofs.Refusal

/-!
How rules fail. A store of texts either reports that a rule does not follow the grammar, or the
arithmetic of a rule goes beyond the numbers that can be read and written. -/
namespace Copybook
namespace Rule

def Piece.IsSound : Piece → Prop
  | .plain _ => True
  | .span inside => isValid inside.trim = true ∧ ∃ value, compute inside.trim = .ok value
  | .unclosed => False

/-- Whether the arithmetic of a span goes beyond the limits, and all is well before it. -/
def OverflowsIn (parts : List Piece) (problem : Numeral.Problem) : Prop :=
  ∃ before inside after, parts = before ++ .span inside :: after ∧
    (∀ piece ∈ before, piece.IsSound) ∧ isValid inside.trim = true ∧
    compute inside.trim = .error problem

def Overflows (rule : Text) : Prop := ∃ problem, OverflowsIn (pieces rule) problem

namespace Store

def IsTextual (s : Store) : Prop := ∀ category name, s.rule category name = .null ∨
  ∃ rule, s.rule category name = .text rule

def Overflows (s : Store) (category name : Text) (values : List (Text × Text)) : Prop :=
  ∃ rule, s.rule (some category) (some name) = .text rule ∧ Rule.Overflows (substitute values rule)

end Store

theorem assemble_ne_notText (rule : Text) (parts : List Piece) :
    assemble rule parts ≠ .error .notText := by
  induction parts with
  | nil => simp [assemble]
  | cons piece rest ih =>
    cases piece with
    | plain c =>
      rw [assemble]
      cases h : assemble rule rest <;> simp_all [Except.map]
    | unclosed => simp [assemble]
    | span inside =>
      simp only [assemble]
      split
      · split
        · simp
        · cases h : assemble rule rest <;> simp_all [Except.map]
      · simp

theorem map_eq_error_iff {ε α β : Type} {x : Except ε α} {f : α → β} {failure : ε} :
    x.map f = .error failure ↔ x = .error failure := by
  cases x <;> simp [Except.map]

theorem assemble_sound {rule : Text} {before : List Piece} (h : ∀ piece ∈ before, piece.IsSound) :
    ∃ front, ∀ rest, assemble rule (before ++ rest) = (assemble rule rest).map (front ++ ·) := by
  induction before with
  | nil =>
    refine ⟨[], fun rest => ?_⟩
    rw [List.nil_append]
    cases assemble rule rest <;> rfl
  | cons piece before ih =>
    obtain ⟨hpiece, hbefore⟩ := List.forall_mem_cons.mp h
    obtain ⟨front, hfront⟩ := ih hbefore
    cases piece with
    | unclosed => exact hpiece.elim
    | plain c =>
      refine ⟨c :: front, fun rest => ?_⟩
      rw [List.cons_append, assemble, hfront]
      cases assemble rule rest <;> rfl
    | span inside =>
      obtain ⟨hvalid, value, hvalue⟩ := hpiece
      refine ⟨value ++ front, fun rest => ?_⟩
      rw [List.cons_append, assemble, hfront]
      simp only [hvalid, hvalue, if_true]
      cases assemble rule rest <;> simp [Except.map]

theorem assemble_numeral_iff (rule : Text) (parts : List Piece) (problem : Numeral.Problem) :
    assemble rule parts = .error (.numeral problem) ↔ OverflowsIn parts problem := by
  constructor
  · intro h
    induction parts with
    | nil => simp [assemble] at h
    | cons piece rest ih =>
      have hlater : piece.IsSound → assemble rule rest = .error (.numeral problem) →
          OverflowsIn (piece :: rest) problem := by
        intro hpiece h
        obtain ⟨before, inside, after, rfl, hbefore, hvalid, hcompute⟩ := ih h
        exact ⟨piece :: before, inside, after, rfl, List.forall_mem_cons.mpr ⟨hpiece, hbefore⟩,
          hvalid, hcompute⟩
      cases piece with
      | plain c => exact hlater trivial (map_eq_error_iff.mp h)
      | unclosed => simp [assemble] at h
      | span inside =>
        simp only [assemble] at h
        split at h
        · rename_i hvalid
          cases hcompute : compute inside.trim with
          | error problem' =>
            obtain rfl : problem' = problem := by simpa [hcompute] using h
            exact ⟨[], inside, rest, rfl, by simp, hvalid, hcompute⟩
          | ok value =>
            rw [hcompute] at h
            exact hlater ⟨hvalid, value, hcompute⟩ (map_eq_error_iff.mp h)
        · cases h
  · rintro ⟨before, inside, after, rfl, hbefore, hvalid, hcompute⟩
    obtain ⟨front, hfront⟩ := assemble_sound hbefore
    rw [hfront, assemble]
    simp [hvalid, hcompute, Except.map]

theorem overflows_iff (rule : Text) :
    Overflows rule ↔ ∃ problem, process rule = .error (.numeral problem) :=
  exists_congr fun problem => (assemble_numeral_iff rule (pieces rule) problem).symm

theorem resolve_fault_iff {s : Store} (category name : Text) (values : List (Text × Text))
    (default : Option Text) (hs : s.IsTextual) :
    (∃ failure fault,
      (resolve s (some category) (some name) values default).result = .error failure ∧
        failure.toFailure = .fault fault) ↔ s.Overflows category name values := by
  rcases hs (some category) (some name) with hnull | ⟨rule, hrule⟩
  · simp [resolve, Store.Overflows, hnull]
  have hresult : (resolve s (some category) (some name) values default).result =
      (process (substitute values rule)).map some := by rw [resolve, hrule]
  simp only [hresult, map_eq_error_iff]
  constructor
  · rintro ⟨failure, fault, hfail, hfault⟩
    cases failure with
    | unclosed rule => cases hfault
    | invalid expression rule => cases rule <;> cases hfault
    | numeral problem => exact ⟨rule, hrule, (overflows_iff _).mpr ⟨problem, hfail⟩⟩
    | notText => exact absurd hfail (assemble_ne_notText _ _)
  · rintro ⟨rule', hrule', hover⟩
    obtain rfl : rule' = rule := by simpa [hrule] using hrule'.symm
    obtain ⟨problem, hfail⟩ := (overflows_iff _).mp hover
    exact ⟨.numeral problem, .numeral problem, hfail, rfl⟩

end Rule

namespace Harvest

open Rule (resolve)

def TypeOverflows : Mapping → Entry → Prop
  | .types, _ => False
  | .rules store, e => store.Overflows "data-type" e.typeName (ruleValues e) ∨
      (∃ dataType, (resolve store (some "data-type") (some e.typeName) (ruleValues e)
        (some e.declaredType)).result = .ok dataType) ∧
      store.Overflows "common-type" e.typeName (ruleValues e)

def IsTextual : Mapping → Prop
  | .types => True
  | .rules store => store.IsTextual

theorem attributeOf_fault_iff {mapping : Mapping} (hs : IsTextual mapping) (mode : CaseMode)
    (e : Entry) (n : Nat) :
    (∃ fault, attributeOf mapping mode e n = .error (.fault fault)) ↔ TypeOverflows mapping e := by
  cases mapping with
  | types => simp [attributeOf, TypeOverflows]
  | rules store =>
    have hdata :=
      Rule.resolve_fault_iff "data-type" e.typeName (ruleValues e) (some e.declaredType) hs
    have hcommon := Rule.resolve_fault_iff "common-type" e.typeName (ruleValues e) (some []) hs
    rw [TypeOverflows, ← hdata, ← hcommon]
    simp only [attributeOf, mapEntry]
    cases (resolve store (some "data-type") (some e.typeName) (ruleValues e)
        (some e.declaredType)).result with
    | error failure => simp
    | ok dataType =>
      cases (resolve store (some "common-type") (some e.typeName) (ruleValues e)
          (some [])).result with
      | error failure => simp
      | ok commonType => simp

end Harvest
end Copybook
