import Copybook.Proofs.Table
import Mathlib.Data.List.Basic
import Mathlib.Data.Prod.Basic

/-!
Tables of rules under a change of keys and rules, and tables that are filled again with their own
entries. Keys that stay apart are put in the same order, and the entries of a table bring it back. -/
namespace Copybook
namespace Association

variable {α α' β β' : Type} [BEq α] [LawfulBEq α] [BEq α'] [LawfulBEq α'] {f : α → α'}

theorem find?_rename (hf : Function.Injective f) (g : β → β') (key : α) (entries : List (α × β)) :
    find? (f key) (entries.map (Prod.map f g)) = (find? key entries).map g := by
  induction entries with
  | nil => rfl
  | cons entry rest ih =>
    by_cases h : entry.1 = key
    · simp [find?, h]
    · have hne : f entry.1 ≠ f key := fun heq => h (hf heq)
      simp [find?, h, hne, ih]

theorem put_rename (hf : Function.Injective f) (g : β → β') (key : α) (value : β)
    (entries : List (α × β)) : (put key value entries).map (Prod.map f g) =
      put (f key) (g value) (entries.map (Prod.map f g)) := by
  induction entries with
  | nil => rfl
  | cons entry rest ih =>
    by_cases h : entry.1 = key
    · simp [put, h]
    · have hne : f entry.1 ≠ f key := fun heq => h (hf heq)
      simp [put, h, hne, ih]

end Association

namespace Rule
namespace Table

variable {κ κ' ρ ρ' : Type}

def map (f : κ → κ') (g : ρ → ρ') (t : Table κ ρ) : Table κ' ρ' :=
  ⟨t.group, t.categories.map (Prod.map f (List.map (Prod.map f g)))⟩

def entries (t : Table κ ρ) : List (κ × κ × ρ) :=
  t.categories.flatMap fun entry => entry.2.map fun rule => (entry.1, rule.1, rule.2)

theorem map_injective {f : κ → κ'} {g : ρ → ρ'} (hf : Function.Injective f)
    (hg : Function.Injective g) : Function.Injective (map f g) := by
  have hrules := List.map_injective_iff.mpr (Function.Injective.prodMap hf hg)
  have hcategories := List.map_injective_iff.mpr (Function.Injective.prodMap hf hrules)
  intro t u h
  have hgroup : (t.map f g).group = (u.map f g).group := congrArg group h
  have hsame : (t.map f g).categories = (u.map f g).categories := congrArg categories h
  cases t
  cases u
  exact congrArg₂ Table.mk hgroup (hcategories hsame)

theorem map_eq_self {g : ρ → ρ} {t : Table κ ρ}
    (h : ∀ entry ∈ t.categories, ∀ rule ∈ entry.2, g rule.2 = rule.2) : t.map id g = t := by
  have hrules : ∀ entry ∈ t.categories, Prod.map id (List.map (Prod.map id g)) entry = id entry := by
    intro entry hentry
    have heach : ∀ rule ∈ entry.2, Prod.map id g rule = id rule :=
      fun rule hrule => Prod.ext rfl (h entry hentry rule hrule)
    exact Prod.ext rfl ((List.map_congr_left heach).trans (List.map_id _))
  rw [map, List.map_congr_left hrules, List.map_id]

/-- A table in which every category has rules. -/
def NoneEmpty (t : Table κ ρ) : Prop := ∀ entry ∈ t.categories, entry.2 ≠ []

theorem put_ne_nil [BEq κ] (key : κ) (rule : ρ) (rules : List (κ × ρ)) :
    Association.put key rule rules ≠ [] := by
  cases rules with
  | nil => simp [Association.put]
  | cons entry rest =>
    rw [Association.put]
    split <;> simp

theorem mem_put [BEq κ] {key : κ} {value : ρ} {all : List (κ × ρ)} {entry : κ × ρ}
    (h : entry ∈ Association.put key value all) : entry ∈ all ∨ entry.2 = value := by
  induction all with
  | nil => exact .inr (by simpa [Association.put] using congrArg Prod.snd (List.mem_singleton.mp h))
  | cons first rest ih =>
    rw [Association.put] at h
    split at h
    · rcases List.mem_cons.mp h with rfl | h
      · exact .inr rfl
      · exact .inl (List.mem_cons_of_mem _ h)
    · rcases List.mem_cons.mp h with rfl | h
      · exact .inl List.mem_cons_self
      · exact (ih h).imp_left (List.mem_cons_of_mem _)

theorem noneEmpty_addAll [BEq κ] (group : Json.Value) (rows : List (κ × κ × ρ)) :
    ((empty group).addAll rows).NoneEmpty := by
  have hempty : (empty group : Table κ ρ).NoneEmpty := fun _ h => nomatch h
  generalize (empty group : Table κ ρ) = t at *
  induction rows generalizing t with
  | nil => exact hempty
  | cons row rows ih =>
    refine ih _ fun entry hentry => ?_
    rcases mem_put hentry with hold | hnew
    · exact hempty entry hold
    · rw [hnew]
      exact put_ne_nil _ _ _

variable [BEq κ] [LawfulBEq κ] [BEq κ'] [LawfulBEq κ']

theorem map_add {f : κ → κ'} (hf : Function.Injective f) (g : ρ → ρ') (t : Table κ ρ)
    (category name : κ) (rule : ρ) :
    (t.add category name rule).map f g = (t.map f g).add (f category) (f name) (g rule) := by
  have hcategory : ((t.map f g).category? (f category)).getD [] =
      ((t.category? category).getD []).map (Prod.map f g) := by
    rw [category?, map, Association.find?_rename hf, category?]
    cases Association.find? category t.categories <;> rfl
  rw [add, map, add, hcategory]
  simp only [map, Association.put_rename hf]

theorem map_addAll {f : κ → κ'} (hf : Function.Injective f) (g : ρ → ρ') (t : Table κ ρ)
    (rows : List (κ × κ × ρ)) : (t.addAll rows).map f g =
      (t.map f g).addAll (rows.map fun row => (f row.1, f row.2.1, g row.2.2)) := by
  induction rows generalizing t with
  | nil => rfl
  | cons row rows ih =>
    change ((t.add row.1 row.2.1 row.2.2).addAll rows).map f g = _
    rw [ih, map_add hf]
    rfl

/-! ### Entries -/

section refill

variable {group : Json.Value} {done : List (κ × List (κ × ρ))} {category : κ}

theorem find?_append_of_not_mem (h : category ∉ done.map (·.1)) (rules : List (κ × ρ)) :
    Association.find? category (done ++ [(category, rules)]) = some rules := by
  rw [Association.find?_append, Association.find?_eq_none_iff.mpr h]
  simp [Association.find?]

theorem put_append_of_not_mem (h : category ∉ done.map (·.1)) (rules more : List (κ × ρ)) :
    Association.put category more (done ++ [(category, rules)]) = done ++ [(category, more)] := by
  induction done with
  | nil => simp [Association.put]
  | cons entry rest ih =>
    rw [List.map_cons, List.mem_cons, not_or] at h
    simp [Association.put, Ne.symm h.1, ih h.2]

theorem addAll_last (h : category ∉ done.map (·.1)) (held : List (κ × ρ)) {rules : List (κ × ρ)}
    (hdistinct : ((held ++ rules).map (·.1)).Nodup) :
    (⟨group, done ++ [(category, held)]⟩ : Table κ ρ).addAll
        (rules.map fun rule => (category, rule.1, rule.2)) =
      ⟨group, done ++ [(category, held ++ rules)]⟩ := by
  induction rules generalizing held with
  | nil => rw [List.append_nil]; rfl
  | cons rule rules ih =>
    have hnone : Association.find? rule.1 held = none :=
      Association.find?_eq_none_of_nodup hdistinct
    have hadd : (⟨group, done ++ [(category, held)]⟩ : Table κ ρ).add category rule.1 rule.2 =
        ⟨group, done ++ [(category, held ++ [rule])]⟩ := by
      rw [add, category?, find?_append_of_not_mem h, Option.getD_some,
        Association.put_of_find?_eq_none _ hnone, put_append_of_not_mem h]
    change ((⟨group, done ++ [(category, held)]⟩ : Table κ ρ).add category rule.1 rule.2).addAll _ = _
    rw [hadd, ih _ (by rwa [List.append_assoc]), List.append_assoc]
    rfl

theorem addAll_category (h : category ∉ done.map (·.1)) {rules : List (κ × ρ)} (hne : rules ≠ [])
    (hdistinct : (rules.map (·.1)).Nodup) :
    (⟨group, done⟩ : Table κ ρ).addAll (rules.map fun rule => (category, rule.1, rule.2)) =
      ⟨group, done ++ [(category, rules)]⟩ := by
  cases rules with
  | nil => exact absurd rfl hne
  | cons rule rules =>
    have hnone : Association.find? category done = none := Association.find?_eq_none_iff.mpr h
    have hadd : (⟨group, done⟩ : Table κ ρ).add category rule.1 rule.2 =
        ⟨group, done ++ [(category, [rule])]⟩ := by
      rw [add, category?, hnone, Option.getD_none, Association.put_of_find?_eq_none _ hnone]
      rfl
    change ((⟨group, done⟩ : Table κ ρ).add category rule.1 rule.2).addAll _ = _
    rw [hadd]
    exact addAll_last h [rule] hdistinct

end refill

theorem addAll_entries {t : Table κ ρ} (hdistinct : t.Distinct) (hfull : t.NoneEmpty)
    (group : Json.Value) : (empty group).addAll t.entries = ⟨group, t.categories⟩ := by
  suffices hall : ∀ categories done : List (κ × List (κ × ρ)),
      ((done ++ categories).map (·.1)).Nodup →
      (∀ entry ∈ categories, (entry.2.map (·.1)).Nodup) → (∀ entry ∈ categories, entry.2 ≠ []) →
      (⟨group, done⟩ : Table κ ρ).addAll (categories.flatMap fun entry =>
        entry.2.map fun rule => (entry.1, rule.1, rule.2)) = ⟨group, done ++ categories⟩ from
    hall t.categories [] hdistinct.1 hdistinct.2 hfull
  -- The categories that are there already are new to none of those to come.
  intro categories
  induction categories with
  | nil => exact fun done _ _ _ => by rw [List.append_nil]; rfl
  | cons entry rest ih =>
    intro done hnodup hnames hfull
    obtain ⟨hfirst, hlater⟩ := List.forall_mem_cons.mp hnames
    obtain ⟨hne, hrest⟩ := List.forall_mem_cons.mp hfull
    have hnew : entry.1 ∉ done.map (·.1) := by
      rw [List.map_append, List.nodup_append] at hnodup
      intro hmem
      exact hnodup.2.2 entry.1 hmem entry.1 (by simp) rfl
    rw [List.flatMap_cons, addAll_append, addAll_category hnew hne hfirst,
      ih _ (by simpa using hnodup) hlater hrest, List.append_assoc]
    rfl

end Table
end Rule
end Copybook
