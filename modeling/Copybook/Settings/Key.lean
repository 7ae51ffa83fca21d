import Copybook.Text.Basic

/-!
The keys under which a run is configured, in the order in which they are written. -/
namespace Copybook
namespace Settings

inductive Key
  | copybooks | directories | rulesFile | ruleGroup | namespacePrefix | case | encoding
  | sortMembers | typeMode | outputFile | statusFile | logLevel | verbose | quiet
  deriving DecidableEq, Repr

/-- What is set under a key: a list of paths, a path, or a value that is taken as it is. -/
inductive Form
  | paths | path | value
  deriving DecidableEq, Repr

namespace Key

def all : List Key :=
  [.copybooks, .directories, .rulesFile, .ruleGroup, .namespacePrefix, .case, .encoding,
   .sortMembers, .typeMode, .outputFile, .statusFile, .logLevel, .verbose, .quiet]

theorem mem_all (k : Key) : k ∈ all := by cases k <;> decide

def word : Key → Text
  | .copybooks => "copybooks"
  | .directories => "pds_directories"
  | .rulesFile => "rules_file"
  | .ruleGroup => "rule_group"
  | .namespacePrefix => "namespace_prefix"
  | .case => "case"
  | .encoding => "encoding"
  | .sortMembers => "sort_members"
  | .typeMode => "type_mode"
  | .outputFile => "output_file"
  | .statusFile => "status_file"
  | .logLevel => "log_level"
  | .verbose => "verbose"
  | .quiet => "quiet"

def ofWord? (t : Text) : Option Key := all.find? fun k => k.word == t

def form : Key → Form
  | .copybooks | .directories => .paths
  | .rulesFile | .outputFile | .statusFile => .path
  | _ => .value

end Key
end Settings
end Copybook
