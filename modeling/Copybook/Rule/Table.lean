import Copybook.Json.Value

/-!
Tables of rules by category and name. Categories, and the names within one, keep the order in which
they were first added, and a rule that is added again replaces the earlier one. -/
namespace Copybook
namespace Rule

structure Table (κ ρ : Type) where
  group : Json.Value
  categories : List (κ × List (κ × ρ))

namespace Table

variable {κ ρ : Type}

def empty (group : Json.Value) : Table κ ρ := ⟨group, []⟩

def size (t : Table κ ρ) : Nat := (t.categories.flatMap fun entry => entry.2).length

def describe (t : Table κ ρ) : Except Numeral.Problem Text :=
  t.group.written.map fun group =>
    "RuleStore(group=" ++ group.inner ++ ", " ++ Text.ofNat t.size ++ " rules)"

variable [BEq κ]

def category? (t : Table κ ρ) (category : κ) : Option (List (κ × ρ)) :=
  Association.find? category t.categories

def add (t : Table κ ρ) (category name : κ) (rule : ρ) : Table κ ρ :=
  let rules := Association.put name rule ((t.category? category).getD [])
  { t with categories := Association.put category rules t.categories }

def addAll (t : Table κ ρ) (rows : List (κ × κ × ρ)) : Table κ ρ :=
  rows.foldl (fun t row => t.add row.1 row.2.1 row.2.2) t

def find? (t : Table κ ρ) (category name : κ) : Option ρ :=
  (t.category? category).bind (Association.find? name)

end Table

def describeCategory (category : Json.Value) (count : Nat) : Except Numeral.Problem Text :=
  category.written.map fun category =>
    "RuleMap(" ++ category.inner ++ ", " ++ Text.ofNat count ++ " rules)"

end Rule
end Copybook
