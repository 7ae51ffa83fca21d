import Copybook.Settings.Key

/-!
The switches of the command line: their names, and whether a value goes with them. -/
namespace Copybook
namespace CommandLine

inductive Switch
  | help | version | copybook | directory | config | rules | ruleGroup | namespacePrefix | case
  | encoding | sortMembers | types | output | statusFile | verbose | quiet
  deriving DecidableEq, Repr

namespace Switch

def all : List Switch :=
  [.help, .version, .copybook, .directory, .config, .rules, .ruleGroup, .namespacePrefix, .case,
   .encoding, .sortMembers, .types, .output, .statusFile, .verbose, .quiet]

def names : Switch → List Text
  | .help => ["-h", "--help"]
  | .version => ["--version"]
  | .copybook => ["--copybook"]
  | .directory => ["--pds"]
  | .config => ["-c", "--config"]
  | .rules => ["-r", "--rules"]
  | .ruleGroup => ["--rule-group"]
  | .namespacePrefix => ["-n", "--namespace-prefix"]
  | .case => ["--case"]
  | .encoding => ["--encoding"]
  | .sortMembers => ["--sort-members"]
  | .types => ["--types"]
  | .output => ["-o", "--output"]
  | .statusFile => ["--status-file"]
  | .verbose => ["-v", "--verbose"]
  | .quiet => ["-q", "--quiet"]

def key? : Switch → Option Settings.Key
  | .copybook => some .copybooks
  | .directory => some .directories
  | .rules => some .rulesFile
  | .ruleGroup => some .ruleGroup
  | .namespacePrefix => some .namespacePrefix
  | .case => some .case
  | .encoding => some .encoding
  | .sortMembers => some .sortMembers
  | .types => some .typeMode
  | .output => some .outputFile
  | .statusFile => some .statusFile
  | .verbose => some .verbose
  | .quiet => some .quiet
  | .help | .version | .config => none

def takesValue : Switch → Bool
  | .help | .version | .sortMembers | .types | .verbose | .quiet => false
  | _ => true

def label (s : Switch) : Text := Text.join "/" s.names

def spellings : List (Text × Switch) := all.flatMap fun s => s.names.map fun name => (name, s)

def ofName? (name : Text) : Option Switch := spellings.lookup name

end Switch
end CommandLine
end Copybook
