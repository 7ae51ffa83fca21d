import Copybook.Failure
import Copybook.Reader.Parameters

/-!
Reader configurations: parameters that have been checked. The checks come in a fixed order, and the
first one that fails decides. -/
namespace Copybook

/-- Where copybooks come from: one file, or all files of a directory. -/
inductive Source
  | copybook (path : Path)
  | directory (path : Path)
  deriving DecidableEq, Repr

structure ReaderConfig where
  source : Source
  namespacePrefix : Text
  rules : Rule.Store
  group : Json.Value
  caseMode : CaseMode
  encoding : Json.Value
  sortMembers : Bool

namespace ReaderConfig

def defaultEncoding : Text := "latin-1"

def scope (c : ReaderConfig) : Scope :=
  match c.source with
  | .copybook _ => .copybook
  | .directory _ => .directory

/-- The word of a value: its text without blanks around it, in small letters. -/
def wordOf (v : Json.Value) : Except Numeral.Problem Text := v.display.map fun t => t.trim.lower

/-- The path that a value names; only a text does. -/
def pathOf (v : Json.Value) : Except Failure (Text × Path) :=
  match v with
  | .text t => .ok (t, Path.ofText t)
  | _ => .error (.fault .wrongType)

def lookAt (files : Files.Tree) (path : Path) : Except Failure (Option Files.Node) :=
  (files.look path).mapError fun fault => .fault (.files fault)

def checkFile (files : Files.Tree) (v : Option Json.Value) : Except Failure Path := do
  match Parameters.given v with
  | none => .error (.problem (.missingParameter "copybookFile"))
  | some v =>
    let (written, path) ← pathOf v
    match ← lookAt files path with
    | none => .error (.problem (.noCopybook written))
    | some .directory => .error (.problem (.notAFile written))
    | some (.file _) => .ok path

def checkDirectory (files : Files.Tree) (v : Option Json.Value) : Except Failure Path := do
  match Parameters.given v with
  | none => .error (.problem (.missingParameter "copybookDirectory"))
  | some v =>
    let (written, path) ← pathOf v
    match ← lookAt files path with
    | none => .error (.problem (.noDirectory written))
    | some (.file _) => .error (.problem (.notADirectory written))
    | some .directory => .ok path

def checkScope (v : Option Json.Value) : Except Failure Scope :=
  match Parameters.given v with
  | none => .error (.problem (.missingParameter "scope"))
  | some v =>
    match (wordOf v).toOption.bind Scope.ofWord? with
    | some scope => .ok scope
    | none => .error (.problem (.invalidParameter "scope"))

def checkSource (files : Files.Tree) (p : Parameters) : Except Failure Source := do
  match ← checkScope p.scope with
  | .copybook => return .copybook (← checkFile files p.copybookFile)
  | .directory => return .directory (← checkDirectory files p.copybookDirectory)

def checkPrefix (v : Option Json.Value) : Except Failure Text :=
  match Parameters.given v with
  | none => .error (.problem (.missingParameter "namespacePrefix"))
  | some v =>
    match v.display with
    | .error problem => .error (.fault (.numeral problem))
    | .ok t =>
      if t.trim.isEmpty then .error (.problem (.emptyParameter "namespacePrefix")) else .ok t.trim

def checkRules : Option RuleArgument → Except Failure Rule.Store
  | none | some (.other .null) => .error (.problem (.missingParameter "ruleStore"))
  | some (.other _) => .error (.problem (.invalidParameter "ruleStore"))
  | some (.store s) => .ok s

def checkCase (v : Option Json.Value) : Except Failure CaseMode :=
  match Parameters.given v with
  | none => .ok .mixed
  | some v =>
    match (wordOf v).toOption.bind CaseMode.ofWord? with
    | some mode => .ok mode
    | none => .error (.problem (.invalidParameter "case"))

def checkSorting (v : Option Json.Value) : Except Failure Bool :=
  match Parameters.given v with
  | none => .ok false
  | some (.bool b) => .ok b
  | some v =>
    match wordOf v with
    | .error problem => .error (.fault (.numeral problem))
    | .ok word =>
      if word = ("true" : Text) then .ok true
      else if word = ("false" : Text) then .ok false
      else .error (.problem (.invalidParameter "sortMembers"))

/-- The encoding named by a value; one that does not count is replaced by the default. -/
def encodingOf (v : Option Json.Value) : Json.Value :=
  match v with
  | some v => if v.isTruthy then v else .text defaultEncoding
  | none => .text defaultEncoding

def ofParameters (files : Files.Tree) (p : Parameters) : Except Failure ReaderConfig := do
  let source ← checkSource files p
  let namespacePrefix ← checkPrefix p.namespacePrefix
  let rules ← checkRules p.ruleStore
  let caseMode ← checkCase p.case
  let sortMembers ← checkSorting p.sortMembers
  return ⟨source, namespacePrefix, rules, p.ruleGroup.getD .null, caseMode, encodingOf p.encoding,
    sortMembers⟩

def toParameters (c : ReaderConfig) : Parameters where
  scope := some (.text c.scope.word)
  copybookFile := match c.source with
    | .copybook path => some (.text path.toText)
    | .directory _ => none
  copybookDirectory := match c.source with
    | .copybook _ => none
    | .directory path => some (.text path.toText)
  namespacePrefix := some (.text c.namespacePrefix)
  ruleStore := some (.store c.rules)
  ruleGroup := Parameters.given (some c.group)
  case := some (.text c.caseMode.word)
  encoding := some c.encoding
  sortMembers := some (.bool c.sortMembers)

def rulesAgree (r s : Rule.Store) : Bool := r.categories == s.categories && r.group == s.group

def agrees (c d : ReaderConfig) : Bool :=
  c.source = d.source && c.namespacePrefix = d.namespacePrefix && rulesAgree c.rules d.rules &&
    c.group == d.group && c.caseMode = d.caseMode && c.encoding == d.encoding &&
    c.sortMembers = d.sortMembers

end ReaderConfig
end Copybook
