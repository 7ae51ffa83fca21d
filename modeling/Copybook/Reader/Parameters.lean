import Copybook.Rule.Store

/-!
The named parameters of a reader, as they are handed over. Each may be absent, and each may have a
value of any kind. -/
namespace Copybook

/-- What stands for the rules: a rule store, or a value that is none. -/
inductive RuleArgument
  | store (s : Rule.Store)
  | other (v : Json.Value)

structure Parameters where
  scope : Option Json.Value := none
  copybookFile : Option Json.Value := none
  copybookDirectory : Option Json.Value := none
  namespacePrefix : Option Json.Value := none
  ruleStore : Option RuleArgument := none
  ruleGroup : Option Json.Value := none
  case : Option Json.Value := none
  encoding : Option Json.Value := none
  sortMembers : Option Json.Value := none

/-- A parameter that is null counts as absent. -/
def Parameters.given : Option Json.Value → Option Json.Value
  | some .null => none
  | v => v

inductive Scope
  | copybook | directory
  deriving DecidableEq, Repr

namespace Scope

def word : Scope → Text
  | .copybook => "copybook"
  | .directory => "pds"

def all : List Scope := [.copybook, .directory]

def ofWord? (t : Text) : Option Scope := all.find? fun s => s.word == t

end Scope
end Copybook
