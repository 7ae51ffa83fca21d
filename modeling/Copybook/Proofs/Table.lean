import Copybook.Proofs.Association
import Copybook.Rule.Table

/-!
Tables of rules and the rows that were added to them. Of the rows for a name in a category the last
one counts, categories stand in the order of their first rows, and there are as many rules as there
are different pairs of a category and a name. -/
namespace Copybook

namespace Rule

/-- The rule of the last row for a name in a category. -/
def lastRule {κ ρ : Type} [BEq κ] (category name : κ) (rows : List (κ × κ × ρ)) : Option ρ :=
  ((rows.filter fun row => row.1 == category && row.2.1 == name).getLast?).map (·.2.2)

namespace Table

variable {κ ρ : Type} [BEq κ]

/-- A table that answers as if it were asked for the rows themselves. -/
structure Shows (t : Table κ ρ) (rows : List (κ × κ × ρ)) : Prop where
  rules : ∀ category name, t.find? category name = lastRule category name rows
  categories : t.categories.map (·.1) = (rows.map fun row => row.1).eraseDups
  size : t.size = (rows.map fun row => (row.1, row.2.1)).eraseDups.length

theorem addAll_append (t : Table κ ρ) (rows more : List (κ × κ × ρ)) :
    t.addAll (rows ++ more) = (t.addAll rows).addAll more := List.foldl_append

variable [LawfulBEq κ]

theorem lastRule_concat (category name : κ) (rows : List (κ × κ × ρ)) (row : κ × κ × ρ) :
    lastRule category name (rows ++ [row]) =
      if row.1 == category && row.2.1 == name then some row.2.2
      else lastRule category name rows := by
  unfold lastRule
  rw [List.filter_append]
  split <;> simp_all

theorem lastRule_isSome_iff (category name : κ) (rows : List (κ × κ × ρ)) :
    (lastRule category name rows).isSome = true ↔
      (category, name) ∈ rows.map fun row => (row.1, row.2.1) := by
  unfold lastRule
  cases hlast : (rows.filter fun row => row.1 == category && row.2.1 == name).getLast? with
  | none =>
    rw [List.getLast?_eq_none_iff, List.filter_eq_nil_iff] at hlast
    constructor
    · intro h
      cases h
    · intro h
      obtain ⟨row, hrow, hpair⟩ := List.mem_map.mp h
      obtain ⟨rfl, rfl⟩ := Prod.mk.inj hpair
      simpa using hlast row hrow
  | some row =>
    have hmem := List.mem_of_getLast? hlast
    simp only [List.mem_filter, Bool.and_eq_true, beq_iff_eq] at hmem
    obtain ⟨hrow, rfl, rfl⟩ := hmem
    exact ⟨fun _ => List.mem_map.mpr ⟨row, hrow, rfl⟩, fun _ => rfl⟩

theorem mem_of_lastRule {category name : κ} {rule : ρ} {rows : List (κ × κ × ρ)}
    (h : lastRule category name rows = some rule) : (category, name, rule) ∈ rows := by
  obtain ⟨row, hlast, rfl⟩ := Option.map_eq_some_iff.mp h
  have hmem := List.mem_of_getLast? hlast
  simp only [List.mem_filter, Bool.and_eq_true, beq_iff_eq] at hmem
  obtain ⟨hrow, rfl, rfl⟩ := hmem
  exact hrow

theorem find?_add (t : Table κ ρ) (category name : κ) (rule : ρ) (other key : κ) :
    (t.add category name rule).find? other key =
      if category == other && name == key then some rule else t.find? other key := by
  unfold find? add category?
  rw [Association.find?_put]
  by_cases hcategory : category = other
  · subst hcategory
    by_cases hname : name = key
    · simp [hname, Association.find?_put]
    · cases h : Association.find? category t.categories <;>
        simp [hname, Association.find?_put, Association.find?]
  · simp [hcategory]

theorem length_put (category : κ) (entries : List (κ × ρ)) (categories : List (κ × List (κ × ρ))) :
    ((Association.put category entries categories).flatMap (·.2)).length +
        ((Association.find? category categories).getD []).length =
      (categories.flatMap (·.2)).length + entries.length := by
  induction categories with
  | nil => simp [Association.put, Association.find?]
  | cons entry rest ih =>
    by_cases h : entry.1 = category
    · simp [Association.put, Association.find?, h]
      omega
    · simp only [Association.put, Association.find?, beq_iff_eq, h, if_false, List.flatMap_cons,
        List.length_append]
      omega

theorem size_add (t : Table κ ρ) (category name : κ) (rule : ρ) :
    (t.add category name rule).size =
      if (t.find? category name).isSome then t.size else t.size + 1 := by
  have htotal := length_put category
    (Association.put name rule ((t.category? category).getD [])) t.categories
  rw [Association.length_put] at htotal
  have hfound : (Association.find? name ((t.category? category).getD [])).isSome =
      (t.find? category name).isSome := by
    unfold find?
    cases t.category? category <;> rfl
  rw [hfound] at htotal
  change (Association.put category _ t.categories |>.flatMap (·.2)).length +
    ((t.category? category).getD []).length = _ at htotal
  unfold size add
  dsimp only
  by_cases hsome : (t.find? category name).isSome = true
  · rw [if_pos hsome] at htotal ⊢
    omega
  · rw [if_neg hsome] at htotal ⊢
    omega

theorem eraseDups_concat {α : Type} [BEq α] [LawfulBEq α] (l : List α) (a : α) :
    (l ++ [a]).eraseDups = if a ∈ l then l.eraseDups else l.eraseDups ++ [a] := by
  rw [List.eraseDups_append]
  by_cases h : a ∈ l <;> simp [List.removeAll, h, List.eraseDups_cons]

theorem Shows.add {t : Table κ ρ} {rows : List (κ × κ × ρ)} (h : t.Shows rows) (category name : κ)
    (rule : ρ) : (t.add category name rule).Shows (rows ++ [(category, name, rule)]) := by
  constructor
  · intro other key
    rw [find?_add, lastRule_concat, h.rules]
  · rw [List.map_append, List.map_singleton, eraseDups_concat, Table.add, Association.keys_put,
      h.categories]
    simp only [List.mem_eraseDups]
  · have hsome := lastRule_isSome_iff category name rows
    rw [← h.rules] at hsome
    rw [List.map_append, List.map_singleton, eraseDups_concat, size_add, h.size]
    by_cases hmem : (category, name) ∈ rows.map fun row => (row.1, row.2.1)
    · rw [if_pos hmem, if_pos (hsome.mpr hmem)]
    · rw [if_neg hmem, if_neg (mt hsome.mp hmem), List.length_append, List.length_singleton]

theorem Shows.addAll {t : Table κ ρ} {rows : List (κ × κ × ρ)} (h : t.Shows rows)
    (more : List (κ × κ × ρ)) : (t.addAll more).Shows (rows ++ more) := by
  induction more generalizing t rows with
  | nil =>
    rw [List.append_nil]
    exact h
  | cons row more ih =>
    have hnext := ih (h.add row.1 row.2.1 row.2.2)
    rwa [List.append_assoc] at hnext

theorem shows_addAll (group : Json.Value) (rows : List (κ × κ × ρ)) :
    ((empty group).addAll rows).Shows rows := by
  have hempty : (empty group : Table κ ρ).Shows [] := ⟨fun _ _ => rfl, rfl, rfl⟩
  exact hempty.addAll rows

structure Distinct (t : Table κ ρ) : Prop where
  categories : (t.categories.map (·.1)).Nodup
  names : ∀ entry ∈ t.categories, (entry.2.map (·.1)).Nodup

theorem Distinct.category? {t : Table κ ρ} (h : t.Distinct) (category : κ) :
    (((t.category? category).getD []).map (·.1)).Nodup := by
  cases hfound : t.category? category with
  | none => exact List.nodup_nil
  | some rules => exact h.names (category, rules) ((Association.mem_iff_find? h.categories _).mpr hfound)

theorem Distinct.add {t : Table κ ρ} (h : t.Distinct) (category name : κ) (rule : ρ) :
    (t.add category name rule).Distinct := by
  have hcategories : ((t.add category name rule).categories.map (·.1)).Nodup :=
    Association.nodup_put _ h.categories
  refine ⟨hcategories, ?_⟩
  intro entry hentry
  have hfound := (Association.mem_iff_find? hcategories entry).mp hentry
  rw [Table.add, Association.find?_put] at hfound
  by_cases hsame : category = entry.1
  · rw [if_pos (by simpa using hsame)] at hfound
    rw [← Option.some.inj hfound]
    exact Association.nodup_put rule (h.category? category)
  · rw [if_neg (by simpa using hsame)] at hfound
    exact h.names entry ((Association.mem_iff_find? h.categories entry).mpr hfound)

theorem distinct_addAll (group : Json.Value) (rows : List (κ × κ × ρ)) :
    ((empty group).addAll rows).Distinct := by
  have hempty : (empty group : Table κ ρ).Distinct := ⟨List.nodup_nil, fun _ h => nomatch h⟩
  generalize empty group = t at *
  induction rows generalizing t with
  | nil => exact hempty
  | cons row rows ih => exact ih _ (hempty.add row.1 row.2.1 row.2.2)

theorem Distinct.find?_eq_some_iff {t : Table κ ρ} (h : t.Distinct) (category name : κ) (rule : ρ) :
    t.find? category name = some rule ↔
      ∃ rules, (category, rules) ∈ t.categories ∧ (name, rule) ∈ rules := by
  rw [find?, Option.bind_eq_some_iff]
  refine exists_congr fun rules => ?_
  have hmem : (category, rules) ∈ t.categories ↔ t.category? category = some rules :=
    Association.mem_iff_find? h.categories _
  rw [← hmem]
  refine and_congr_right fun hrules => ?_
  exact (Association.mem_iff_find? (h.names _ hrules) (name, rule)).symm

end Table
end Rule
end Copybook
