import Copybook.Proofs.Table
import Copybook.Rule.Builder

/-!
Builders and what they have built. A builder writes into its own dictionaries only, and building
copies them at both levels; so a store keeps showing the rules that had been added when it was built,
whatever the builder is asked to do afterwards. -/
namespace Copybook
namespace Rule
namespace Memory

variable {κ ρ : Type} {m m' : Memory κ ρ} {h k : Handle}

def places (m : Memory κ ρ) (h : Handle) : List Nat := (m.categoriesAt h.place).map (·.2)

def read (m : Memory κ ρ) (entries : List (κ × Nat)) : List (κ × List (κ × ρ)) :=
  entries.map fun entry => (entry.1, m.rulesAt entry.2)

theorem table_read (m : Memory κ ρ) (h : Handle) :
    m.table h = ⟨h.group, m.read (m.categoriesAt h.place)⟩ := rfl

theorem read_append (m : Memory κ ρ) (entries more : List (κ × Nat)) :
    m.read (entries ++ more) = m.read entries ++ m.read more := List.map_append

theorem read_congr {entries : List (κ × Nat)}
    (h : ∀ place ∈ entries.map (·.2), m'.rulesAt place = m.rulesAt place) :
    m'.read entries = m.read entries := by
  apply List.map_congr_left
  intro entry hentry
  rw [h _ (List.mem_map_of_mem hentry)]

/-- A handle leads to dictionaries that are there, and to no dictionary of rules twice. -/
structure IsValid (m : Memory κ ρ) (h : Handle) : Prop where
  place : h.place < m.categories.length
  places : ∀ place ∈ m.places h, place < m.rules.length
  distinct : (m.places h).Nodup

structure Apart (m : Memory κ ρ) (h k : Handle) : Prop where
  place : h.place ≠ k.place
  places : ∀ place ∈ m.places h, place ∉ m.places k

/-- A memory that has got new dictionaries, while the old ones are as they were. -/
structure Extends (m m' : Memory κ ρ) : Prop where
  rules : m.rules <+: m'.rules
  categories : m.categories <+: m'.categories

theorem Extends.refl (m : Memory κ ρ) : m.Extends m :=
  ⟨List.prefix_rfl, List.prefix_rfl⟩

theorem Extends.trans {m'' : Memory κ ρ} (h : m.Extends m') (h' : m'.Extends m'') :
    m.Extends m'' :=
  ⟨h.rules.trans h'.rules, h.categories.trans h'.categories⟩

theorem Extends.rulesAt (h : m.Extends m') {place : Nat} (hplace : place < m.rules.length) :
    m'.rulesAt place = m.rulesAt place := by
  rw [Memory.rulesAt, Memory.rulesAt, List.prefix_iff_getElem?.mp h.rules place hplace,
    List.getElem?_eq_getElem hplace]

theorem Extends.categoriesAt (h : m.Extends m') {place : Nat}
    (hplace : place < m.categories.length) : m'.categoriesAt place = m.categoriesAt place := by
  rw [Memory.categoriesAt, Memory.categoriesAt,
    List.prefix_iff_getElem?.mp h.categories place hplace, List.getElem?_eq_getElem hplace]

theorem Extends.places (he : m.Extends m') (h : Handle) (hplace : h.place < m.categories.length) :
    m'.places h = m.places h := by
  rw [Memory.places, he.categoriesAt hplace, Memory.places]

theorem Extends.table_eq (he : m.Extends m') (hv : m.IsValid h) : m'.table h = m.table h := by
  rw [table_read, table_read, he.categoriesAt hv.place,
    read_congr fun place hplace => he.rulesAt (hv.places place hplace)]

theorem Extends.isValid (he : m.Extends m') (hv : m.IsValid h) : m'.IsValid h := by
  have hplaces := he.places h hv.place
  constructor
  · exact Nat.lt_of_lt_of_le hv.place he.categories.length_le
  · intro place hplace
    exact Nat.lt_of_lt_of_le (hv.places place (hplaces ▸ hplace)) he.rules.length_le
  · rw [hplaces]
    exact hv.distinct

theorem Extends.apart (he : m.Extends m') (hv : m.IsValid h) (hk : m.IsValid k)
    (ha : m.Apart h k) : m'.Apart h k := by
  refine ⟨ha.place, ?_⟩
  rw [he.places h hv.place, he.places k hk.place]
  exact ha.places

theorem makeRules_extends (m : Memory κ ρ) (entries : List (κ × ρ)) :
    m.Extends (m.makeRules entries).2 :=
  ⟨List.prefix_append _ _, List.prefix_rfl⟩

theorem makeCategories_extends (m : Memory κ ρ) (entries : List (κ × Nat)) :
    m.Extends (m.makeCategories entries).2 :=
  ⟨List.prefix_rfl, List.prefix_append _ _⟩

@[simp] theorem rulesAt_makeRules (m : Memory κ ρ) (entries : List (κ × ρ)) :
    (m.makeRules entries).2.rulesAt (m.makeRules entries).1 = entries := by
  simp [makeRules, rulesAt]

@[simp] theorem categoriesAt_makeCategories (m : Memory κ ρ) (entries : List (κ × Nat)) :
    (m.makeCategories entries).2.categoriesAt (m.makeCategories entries).1 = entries := by
  simp [makeCategories, categoriesAt]

/-! ### Copies -/

/-- Copies of dictionaries of rules are new, different from each other, and hold the same rules. -/
structure Copied (m : Memory κ ρ) (entries copies : List (κ × Nat)) (m' : Memory κ ρ) : Prop where
  extended : m.Extends m'
  categories : m'.categories = m.categories
  same : m'.read copies = m.read entries
  fresh : ∀ entry ∈ copies, m.rules.length ≤ entry.2 ∧ entry.2 < m'.rules.length
  distinct : (copies.map (·.2)).Nodup

theorem copyRules_cons (m : Memory κ ρ) (category : κ) (place : Nat) (rest : List (κ × Nat)) :
    m.copyRules ((category, place) :: rest) =
      ((category, m.rules.length) :: ((m.makeRules (m.rulesAt place)).2.copyRules rest).1,
        ((m.makeRules (m.rulesAt place)).2.copyRules rest).2) := rfl

theorem Copied.cons {category : κ} {place : Nat} {entries copies : List (κ × Nat)}
    (hrest : ∀ place ∈ entries.map (·.2), place < m.rules.length)
    (h : (m.makeRules (m.rulesAt place)).2.Copied entries copies m') :
    m.Copied ((category, place) :: entries) ((category, m.rules.length) :: copies) m' := by
  have hmade := m.makeRules_extends (m.rulesAt place)
  have hlength : (m.makeRules (m.rulesAt place)).2.rules.length = m.rules.length + 1 := by
    simp [makeRules]
  have hgrown := h.extended.rules.length_le
  have hfirst : m'.rulesAt m.rules.length = m.rulesAt place := by
    rw [h.extended.rulesAt (by omega)]
    exact rulesAt_makeRules m (m.rulesAt place)
  refine ⟨hmade.trans h.extended, h.categories, ?_, ?_, ?_⟩
  · rw [read, List.map_cons, hfirst, ← read, h.same,
      read_congr fun place hplace => hmade.rulesAt (hrest place hplace)]
    rfl
  · refine List.forall_mem_cons.mpr ⟨by omega, ?_⟩
    intro entry hentry
    have hbounds := h.fresh entry hentry
    omega
  · rw [List.map_cons, List.nodup_cons]
    refine ⟨?_, h.distinct⟩
    intro hmem
    obtain ⟨entry, hentry, hsame⟩ := List.mem_map.mp hmem
    have hbounds := h.fresh entry hentry
    omega

theorem copyRules_copied (m : Memory κ ρ) {entries : List (κ × Nat)}
    (h : ∀ place ∈ entries.map (·.2), place < m.rules.length) :
    m.Copied entries (m.copyRules entries).1 (m.copyRules entries).2 := by
  induction entries generalizing m with
  | nil => exact ⟨Extends.refl m, rfl, rfl, by simp [copyRules], by simp [copyRules]⟩
  | cons entry rest ih =>
    obtain ⟨category, place⟩ := entry
    obtain ⟨-, hrest⟩ := List.forall_mem_cons.mp h
    rw [copyRules_cons]
    refine Copied.cons hrest (ih _ ?_)
    intro place hplace
    exact Nat.lt_of_lt_of_le (hrest place hplace) (m.makeRules_extends _).rules.length_le

/-- A store is made of new dictionaries that show what is seen through the handle it is made from. -/
theorem store_spec (hv : m.IsValid h) (group : Json.Value) :
    m.Extends (m.store group h.place).2 ∧ (m.store group h.place).2.IsValid (m.store group h.place).1 ∧
      (∀ k, m.IsValid k → (m.store group h.place).2.Apart k (m.store group h.place).1) ∧
      (m.store group h.place).2.table (m.store group h.place).1 =
        ⟨group, (m.table h).categories⟩ := by
  have hcopied := m.copyRules_copied hv.places
  unfold store copy
  dsimp only
  generalize m.copyRules (m.categoriesAt h.place) = copied at *
  obtain ⟨copies, m₁⟩ := copied
  have hmade := m₁.makeCategories_extends copies
  have hplaces : (m₁.makeCategories copies).2.places ⟨group, (m₁.makeCategories copies).1⟩ =
      copies.map (·.2) := by
    rw [places, categoriesAt_makeCategories]
  have hcategories : (m₁.makeCategories copies).1 = m.categories.length :=
    congrArg List.length hcopied.categories
  refine ⟨hcopied.extended.trans hmade, ⟨?_, ?_, ?_⟩, ?_, ?_⟩
  · simp [makeCategories]
  · rw [hplaces]
    intro place hplace
    obtain ⟨entry, hentry, rfl⟩ := List.mem_map.mp hplace
    exact (hcopied.fresh entry hentry).2
  · rw [hplaces]
    exact hcopied.distinct
  · intro k hk
    refine ⟨?_, ?_⟩
    · exact Nat.ne_of_lt (Nat.lt_of_lt_of_eq hk.place hcategories.symm)
    · rw [hplaces, (hcopied.extended.trans hmade).places k hk.place]
      intro place hplace hmem
      obtain ⟨entry, hentry, rfl⟩ := List.mem_map.mp hmem
      have hold := hk.places _ hplace
      have hnew := (hcopied.fresh entry hentry).1
      omega
  · rw [table_read, categoriesAt_makeCategories]
    exact congrArg (Table.mk group) hcopied.same

/-! ### Writing -/

@[simp] theorem rulesAt_setRules (m : Memory κ ρ) (place : Nat) (entries : List (κ × ρ))
    (other : Nat) : (m.setRules place entries).rulesAt other =
      if place = other ∧ place < m.rules.length then entries else m.rulesAt other := by
  unfold setRules rulesAt
  dsimp only
  rw [List.getElem?_set]
  by_cases hsame : place = other
  · subst hsame
    by_cases hplace : place < m.rules.length <;> simp [hplace]
  · simp [hsame]

theorem isValid_setRules (hv : m.IsValid h) (place : Nat) (entries : List (κ × ρ)) :
    (m.setRules place entries).IsValid h := by
  refine ⟨hv.place, ?_, hv.distinct⟩
  intro other hother
  rw [setRules, List.length_set]
  exact hv.places other hother

theorem table_setRules {place : Nat} (hplace : place ∉ m.places h) (entries : List (κ × ρ)) :
    (m.setRules place entries).table h = m.table h := by
  have hother : ∀ other ∈ m.places h, (m.setRules place entries).rulesAt other = m.rulesAt other := by
    intro other hmem
    have hne : place ≠ other := by
      rintro rfl
      exact hplace hmem
    rw [rulesAt_setRules, if_neg (by simp [hne])]
  exact congrArg (Table.mk h.group) (read_congr hother)

theorem read_setRules [BEq κ] [LawfulBEq κ] {entries : List (κ × Nat)} {category : κ} {place : Nat}
    (hdistinct : (entries.map (·.2)).Nodup)
    (hfound : Association.find? category entries = some place) (hplace : place < m.rules.length)
    (rules : List (κ × ρ)) :
    (m.setRules place rules).read entries = Association.put category rules (m.read entries) := by
  induction entries with
  | nil => cases hfound
  | cons entry rest ih =>
    rw [List.map_cons, List.nodup_cons] at hdistinct
    obtain ⟨hfirst, hrest⟩ := hdistinct
    simp only [read, List.map_cons] at ih ⊢
    by_cases hkey : entry.1 = category
    · obtain rfl : entry.2 = place := by simpa [Association.find?, hkey] using hfound
      have hothers : (m.setRules entry.2 rules).read rest = m.read rest := by
        apply read_congr
        intro other hother
        have hne : entry.2 ≠ other := by
          rintro rfl
          exact hfirst hother
        rw [rulesAt_setRules, if_neg (by simp [hne])]
      rw [rulesAt_setRules, if_pos ⟨rfl, hplace⟩]
      simpa [Association.put, hkey, read] using hothers
    · have hlater : Association.find? category rest = some place := by
        simpa [Association.find?, hkey] using hfound
      have hne : place ≠ entry.2 := by
        rintro rfl
        exact hfirst (Association.mem_of_find?_eq_some hlater)
      rw [rulesAt_setRules, if_neg (by simp [hne]), ih hrest hlater]
      simp [Association.put, hkey]

theorem categoriesAt_setCategories (m : Memory κ ρ) {place : Nat}
    (hplace : place < m.categories.length) (entries : List (κ × Nat)) (other : Nat) :
    (m.setCategories place entries).categoriesAt other =
      if place = other then entries else m.categoriesAt other := by
  unfold setCategories categoriesAt
  dsimp only
  rw [List.getElem?_set]
  by_cases hsame : place = other
  · subst hsame
    simp [hplace]
  · simp [hsame]

/-- A memory in which a handle leads to one category more, with a dictionary that is new and empty. -/
structure Opened (m : Memory κ ρ) (h : Handle) (category : κ) (m' : Memory κ ρ) : Prop where
  own : m'.categoriesAt h.place = m.categoriesAt h.place ++ [(category, m.rules.length)]
  rules : m'.rules = m.rules ++ [[]]
  length : m'.categories.length = m.categories.length
  others : ∀ place, place ≠ h.place → m'.categoriesAt place = m.categoriesAt place

namespace Opened

variable {category : κ}

theorem rulesAt_old (ho : m.Opened h category m') {place : Nat} (hplace : place < m.rules.length) :
    m'.rulesAt place = m.rulesAt place := by
  rw [Memory.rulesAt, ho.rules, List.getElem?_append_left hplace, Memory.rulesAt]

theorem rulesAt_new (ho : m.Opened h category m') : m'.rulesAt m.rules.length = [] := by
  rw [Memory.rulesAt, ho.rules, List.getElem?_append_right (Nat.le_refl _), Nat.sub_self]
  rfl

theorem length_rules (ho : m.Opened h category m') : m'.rules.length = m.rules.length + 1 := by
  rw [ho.rules, List.length_append, List.length_singleton]

theorem places_own (ho : m.Opened h category m') :
    m'.places h = m.places h ++ [m.rules.length] := by
  rw [Memory.places, ho.own, List.map_append]
  rfl

theorem places_other (ho : m.Opened h category m') (ha : m.Apart k h) :
    m'.places k = m.places k := by
  rw [Memory.places, ho.others _ ha.place, Memory.places]

theorem isValid_own (ho : m.Opened h category m') (hv : m.IsValid h) : m'.IsValid h := by
  refine ⟨Nat.lt_of_lt_of_eq hv.place ho.length.symm, ?_, ?_⟩
  · rw [ho.places_own, ho.length_rules]
    intro place hplace
    rcases List.mem_append.mp hplace with hplace | hplace
    · exact Nat.lt_succ_of_lt (hv.places place hplace)
    · rw [List.mem_singleton.mp hplace]
      exact Nat.lt_succ_self _
  · rw [ho.places_own, List.nodup_append]
    refine ⟨hv.distinct, by simp, ?_⟩
    intro place hplace other hother
    rw [List.mem_singleton.mp hother]
    exact Nat.ne_of_lt (hv.places place hplace)

theorem isValid_other (ho : m.Opened h category m') (hk : m.IsValid k) (ha : m.Apart k h) :
    m'.IsValid k := by
  refine ⟨Nat.lt_of_lt_of_eq hk.place ho.length.symm, ?_, ?_⟩
  · rw [ho.places_other ha, ho.length_rules]
    exact fun place hplace => Nat.lt_succ_of_lt (hk.places place hplace)
  · rw [ho.places_other ha]
    exact hk.distinct

theorem apart (ho : m.Opened h category m') (hk : m.IsValid k) (ha : m.Apart k h) :
    m'.Apart k h := by
  refine ⟨ha.place, ?_⟩
  rw [ho.places_other ha, ho.places_own]
  intro place hplace hmem
  rcases List.mem_append.mp hmem with hmem | hmem
  · exact ha.places place hplace hmem
  · exact Nat.ne_of_lt (hk.places place hplace) (List.mem_singleton.mp hmem)

theorem table_own (ho : m.Opened h category m') (hv : m.IsValid h) :
    (m'.table h).categories = (m.table h).categories ++ [(category, [])] := by
  rw [table_read, table_read, ho.own, read_append,
    read_congr fun place hplace => ho.rulesAt_old (hv.places place hplace)]
  simp [read, ho.rulesAt_new]

theorem table_other (ho : m.Opened h category m') (hk : m.IsValid k) (ha : m.Apart k h) :
    m'.table k = m.table k := by
  rw [table_read, table_read, ho.others _ ha.place,
    read_congr fun place hplace => ho.rulesAt_old (hk.places place hplace)]

end Opened

end Memory

namespace Builder

open Memory

variable {κ ρ : Type} {b b' b'' : Builder κ ρ}

def IsValid (b : Builder κ ρ) : Prop := b.memory.IsValid b.handle

/-- What a builder may do to the memory: its own dictionaries stay in order, and whatever was built
is seen as before. -/
structure Keeps (b b' : Builder κ ρ) : Prop where
  handle : b'.handle = b.handle
  valid : b'.IsValid
  others : ∀ h, b.memory.IsValid h → b.memory.Apart h b.handle →
    b'.memory.IsValid h ∧ b'.memory.Apart h b'.handle ∧ b'.memory.table h = b.memory.table h

theorem Keeps.refl (h : b.IsValid) : b.Keeps b :=
  ⟨rfl, h, fun _ hv ha => ⟨hv, ha, rfl⟩⟩

theorem Keeps.trans (h : b.Keeps b') (h' : b'.Keeps b'') : b.Keeps b'' := by
  refine ⟨h'.handle.trans h.handle, h'.valid, ?_⟩
  intro k hv ha
  obtain ⟨hv', ha', htable⟩ := h.others k hv ha
  obtain ⟨hv'', ha'', htable'⟩ := h'.others k hv' ha'
  exact ⟨hv'', ha'', htable'.trans htable⟩

theorem new_isValid (group : Json.Value) : (new group : Builder κ ρ).IsValid := by
  constructor <;> simp [new, places, categoriesAt]

theorem build_spec (h : b.IsValid) : b.Keeps b.build.2 ∧ b.build.2.table = b.table ∧
    b.build.2.memory.IsValid b.build.1 ∧ b.build.2.memory.Apart b.build.1 b.handle ∧
    b.build.2.memory.table b.build.1 = b.table := by
  obtain ⟨hextends, hvalid, hapart, htable⟩ := store_spec h b.handle.group
  refine ⟨⟨rfl, hextends.isValid h, ?_⟩, hextends.table_eq h, hvalid, ?_, htable⟩
  · intro k hv ha
    exact ⟨hextends.isValid hv, hextends.apart hv h ha, hextends.table_eq hv⟩
  · obtain ⟨hplace, hplaces⟩ := hapart b.handle h
    exact ⟨hplace.symm, fun place hmem hown => hplaces place hown hmem⟩

variable [BEq κ] [LawfulBEq κ]

theorem category?_table (b : Builder κ ρ) (category : κ) :
    b.table.category? category = (Association.find? category
      (b.memory.categoriesAt b.handle.place)).map b.memory.rulesAt :=
  Association.find?_map _ _ _

theorem openCategory_new (h : b.IsValid) {category : κ}
    (hnone : Association.find? category (b.memory.categoriesAt b.handle.place) = none) :
    ∃ m, b.openCategory category = (b.memory.rules.length, ⟨b.handle, m⟩) ∧
      b.memory.Opened b.handle category m := by
  have hplace : b.handle.place < (b.memory.makeRules []).2.categories.length := h.place
  refine ⟨(b.memory.makeRules []).2.setCategories b.handle.place (Association.put category
    b.memory.rules.length (b.memory.categoriesAt b.handle.place)), ?_, ?_, rfl, ?_, ?_⟩
  · simp only [openCategory, hnone]
    rfl
  · rw [categoriesAt_setCategories _ hplace, if_pos rfl,
      Association.put_of_find?_eq_none _ hnone]
  · simp [setCategories, makeRules]
  · intro place hother
    rw [categoriesAt_setCategories _ hplace, if_neg hother.symm]
    rfl

theorem openCategory_spec (h : b.IsValid) (category : κ) :
    b.Keeps (b.openCategory category).2 ∧
      Association.find? category ((b.openCategory category).2.memory.categoriesAt b.handle.place) =
        some (b.openCategory category).1 ∧
      (b.openCategory category).2.table =
        ⟨b.handle.group, Association.put category ((b.table.category? category).getD [])
          b.table.categories⟩ := by
  cases hfound : Association.find? category (b.memory.categoriesAt b.handle.place) with
  | some place =>
    have hopen : b.openCategory category = (place, b) := by simp only [openCategory, hfound]
    have hcategory : b.table.category? category = some (b.memory.rulesAt place) := by
      rw [category?_table, hfound, Option.map_some]
    rw [hopen, hcategory, Option.getD_some, Association.put_of_find?_eq_some hcategory]
    exact ⟨Keeps.refl h, hfound, rfl⟩
  | none =>
    obtain ⟨m, hopen, ho⟩ := openCategory_new h hfound
    have hcategory : b.table.category? category = none := by
      rw [category?_table, hfound, Option.map_none]
    rw [hopen, hcategory, Option.getD_none, Association.put_of_find?_eq_none _ hcategory]
    refine ⟨⟨rfl, ho.isValid_own h, ?_⟩, ?_, congrArg (Table.mk b.handle.group) (ho.table_own h)⟩
    · intro k hk ha
      exact ⟨ho.isValid_other hk ha, ho.apart hk ha, ho.table_other hk ha⟩
    · dsimp only
      rw [ho.own, ← Association.put_of_find?_eq_none _ hfound, Association.find?_put,
        if_pos BEq.rfl]

/-- A rule that is added is added to the table that the builder shows, and to no other. -/
theorem add_spec (h : b.IsValid) (category name : κ) (rule : ρ) :
    b.Keeps (b.add category name rule) ∧
      (b.add category name rule).table = b.table.add category name rule := by
  obtain ⟨hkeeps, hfound, htable⟩ := openCategory_spec h category
  unfold add
  generalize b.openCategory category = opened at *
  obtain ⟨place, b'⟩ := opened
  dsimp only at *
  rw [← hkeeps.handle] at hfound
  have hmem : place ∈ b'.memory.places b'.handle := Association.mem_of_find?_eq_some hfound
  have hplace : place < b'.memory.rules.length := hkeeps.valid.places place hmem
  have hrules : b'.memory.rulesAt place = (b.table.category? category).getD [] := by
    have hcategory := category?_table b' category
    rw [hfound, htable] at hcategory
    simpa [Table.category?, Association.find?_put] using hcategory.symm
  refine ⟨hkeeps.trans ⟨rfl, isValid_setRules hkeeps.valid _ _, ?_⟩, ?_⟩
  · intro k hk ha
    exact ⟨isValid_setRules hk _ _, ⟨ha.place, ha.places⟩,
      table_setRules (fun hplace => ha.places _ hplace hmem) _⟩
  · have hread := read_setRules hkeeps.valid.distinct hfound hplace
      (Association.put name rule (b'.memory.rulesAt place))
    have hbefore : b'.memory.read (b'.memory.categoriesAt b'.handle.place) =
        Association.put category ((b.table.category? category).getD []) b.table.categories :=
      congrArg Table.categories htable
    rw [hbefore, Association.put_put, hrules] at hread
    have hgroup : b'.handle.group = b.table.group := congrArg Handle.group hkeeps.handle
    rw [table, table_read, hrules]
    exact congrArg₂ Table.mk hgroup hread

theorem addAll_spec (h : b.IsValid) (rows : List (κ × κ × ρ)) :
    b.Keeps (b.addAll rows) ∧ (b.addAll rows).table = b.table.addAll rows := by
  induction rows generalizing b with
  | nil => exact ⟨Keeps.refl h, rfl⟩
  | cons row rows ih =>
    obtain ⟨hfirst, htable⟩ := add_spec h row.1 row.2.1 row.2.2
    obtain ⟨hrest, htables⟩ := ih hfirst.valid
    refine ⟨hfirst.trans hrest, ?_⟩
    rw [htable] at htables
    exact htables

def Call.rows : Call κ ρ → List (κ × κ × ρ)
  | .add category name rule => [(category, name, rule)]
  | .addAll rows => rows
  | .build => []

theorem call_spec (h : b.IsValid) (call : Call κ ρ) :
    b.Keeps (b.call call) ∧ (b.call call).table = b.table.addAll call.rows := by
  cases call with
  | add category name rule => exact add_spec h category name rule
  | addAll rows => exact addAll_spec h rows
  | build =>
    obtain ⟨hkeeps, htable, -⟩ := build_spec h
    exact ⟨hkeeps, htable⟩

theorem run_spec (h : b.IsValid) (calls : List (Call κ ρ)) :
    b.Keeps (b.run calls) ∧ (b.run calls).table = b.table.addAll (calls.flatMap Call.rows) := by
  induction calls generalizing b with
  | nil => exact ⟨Keeps.refl h, rfl⟩
  | cons call calls ih =>
    obtain ⟨hfirst, htable⟩ := call_spec h call
    obtain ⟨hrest, htables⟩ := ih hfirst.valid
    refine ⟨hfirst.trans hrest, ?_⟩
    rw [htable] at htables
    rw [List.flatMap_cons, Table.addAll_append]
    exact htables

/-- What a store shows that was built after some calls, when further calls have been made. -/
theorem build_lasts (group : Json.Value) (before after : List (Call (Option Text) Json.Value)) :
    let store := ((new group).run before).build.1
    let memory := ((new group).run (before ++ .build :: after)).memory
    (memory.table store).group = group ∧
      (memory.table store).Shows (before.flatMap Call.rows) ∧
      memory.table store = ((new group).run before).build.2.memory.table store ∧
      ∀ regroup : Json.Value,
        let dictionary := memory.copy store.place
        let rebuilt := dictionary.2.store regroup dictionary.1
        rebuilt.2.table rebuilt.1 = ⟨regroup, (memory.table store).categories⟩ := by
  intro store memory
  obtain ⟨hbefore, hadded⟩ := run_spec (new_isValid group) before
  obtain ⟨hbuild, -, hvalid, hapart, hstore⟩ := build_spec hbefore.valid
  obtain ⟨hafter, -⟩ := run_spec hbuild.valid after
  have hmemory : memory = (((new group).run before).build.2.run after).memory := by
    change ((new group).run (before ++ .build :: after)).memory = _
    rw [run, List.foldl_append]
    rfl
  rw [hmemory]
  obtain ⟨hvalid', -, hlasts⟩ := hafter.others store hvalid hapart
  refine ⟨?_, ?_, hlasts, ?_⟩
  · rw [hlasts, hstore]
    exact congrArg Handle.group hbefore.handle
  · rw [hlasts, hstore, hadded]
    exact Table.shows_addAll group _
  · intro regroup
    obtain ⟨-, hcopy, -, hcopied⟩ := store_spec hvalid' regroup
    obtain ⟨-, -, -, hrebuilt⟩ := store_spec hcopy regroup
    rw [hcopied] at hrebuilt
    exact hrebuilt

end Builder
end Rule
end Copybook
