import Copybook.Rule.Store

/-!
Builders of rule tables. A builder puts rules into dictionaries that keep their places, so that
whoever knows the place of a dictionary sees all that is put into it later. What is built is
therefore given dictionaries of its own. -/
namespace Copybook
namespace Rule

/-- The dictionaries that there are. One of categories holds the places of dictionaries of rules. -/
structure Memory (κ ρ : Type) where
  rules : List (List (κ × ρ))
  categories : List (List (κ × Nat))

/-- What a builder or a store that has been built knows: a group, and the place of a dictionary of
categories. -/
structure Handle where
  group : Json.Value
  place : Nat

namespace Memory

variable {κ ρ : Type}

def rulesAt (m : Memory κ ρ) (place : Nat) : List (κ × ρ) := m.rules[place]?.getD []

def categoriesAt (m : Memory κ ρ) (place : Nat) : List (κ × Nat) := m.categories[place]?.getD []

def table (m : Memory κ ρ) (h : Handle) : Table κ ρ :=
  ⟨h.group, (m.categoriesAt h.place).map fun entry => (entry.1, m.rulesAt entry.2)⟩

def makeRules (m : Memory κ ρ) (entries : List (κ × ρ)) : Nat × Memory κ ρ :=
  (m.rules.length, { m with rules := m.rules ++ [entries] })

def makeCategories (m : Memory κ ρ) (entries : List (κ × Nat)) : Nat × Memory κ ρ :=
  (m.categories.length, { m with categories := m.categories ++ [entries] })

def setRules (m : Memory κ ρ) (place : Nat) (entries : List (κ × ρ)) : Memory κ ρ :=
  { m with rules := m.rules.set place entries }

def setCategories (m : Memory κ ρ) (place : Nat) (entries : List (κ × Nat)) : Memory κ ρ :=
  { m with categories := m.categories.set place entries }

def copyRules (m : Memory κ ρ) : List (κ × Nat) → List (κ × Nat) × Memory κ ρ
  | [] => ([], m)
  | (category, place) :: rest =>
    let (copy, m) := m.makeRules (m.rulesAt place)
    let (copies, m) := m.copyRules rest
    ((category, copy) :: copies, m)

def copy (m : Memory κ ρ) (place : Nat) : Nat × Memory κ ρ :=
  let (copies, m) := m.copyRules (m.categoriesAt place)
  m.makeCategories copies

def store (m : Memory κ ρ) (group : Json.Value) (place : Nat) : Handle × Memory κ ρ :=
  (⟨group, (m.copy place).1⟩, (m.copy place).2)

end Memory

structure Builder (κ ρ : Type) where
  handle : Handle
  memory : Memory κ ρ

namespace Builder

variable {κ ρ : Type}

def new (group : Json.Value) : Builder κ ρ := ⟨⟨group, 0⟩, ⟨[], [[]]⟩⟩

def table (b : Builder κ ρ) : Table κ ρ := b.memory.table b.handle

def build (b : Builder κ ρ) : Handle × Builder κ ρ :=
  let (store, memory) := b.memory.store b.handle.group b.handle.place
  (store, { b with memory := memory })

variable [BEq κ]

/-- The place of a category's dictionary of rules, which is made if there is none. -/
def openCategory (b : Builder κ ρ) (category : κ) : Nat × Builder κ ρ :=
  let categories := b.memory.categoriesAt b.handle.place
  match Association.find? category categories with
  | some place => (place, b)
  | none =>
    let (place, memory) := b.memory.makeRules []
    (place, { b with
      memory := memory.setCategories b.handle.place (Association.put category place categories) })

def add (b : Builder κ ρ) (category name : κ) (rule : ρ) : Builder κ ρ :=
  let (place, b) := b.openCategory category
  { b with memory := b.memory.setRules place (Association.put name rule (b.memory.rulesAt place)) }

def addAll (b : Builder κ ρ) (rows : List (κ × κ × ρ)) : Builder κ ρ :=
  rows.foldl (fun b row => b.add row.1 row.2.1 row.2.2) b

inductive Call (κ ρ : Type)
  | add (category name : κ) (rule : ρ)
  | addAll (rows : List (κ × κ × ρ))
  | build

def call (b : Builder κ ρ) : Call κ ρ → Builder κ ρ
  | .add category name rule => b.add category name rule
  | .addAll rows => b.addAll rows
  | .build => b.build.2

def run (b : Builder κ ρ) (calls : List (Call κ ρ)) : Builder κ ρ := calls.foldl call b

end Builder
end Rule
end Copybook
