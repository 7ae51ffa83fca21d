import Copybook.Json.Writer
import Copybook.Settings.Setting

/-!
The settings of a run. They are written and read as JSON documents, and settings can be laid over
others: what differs from the default there takes precedence. -/
namespace Copybook

structure Settings where
  copybooks : Setting := .paths []
  directories : Setting := .paths []
  rulesFile : Setting := .value .null
  ruleGroup : Setting := .value .null
  namespacePrefix : Setting := .value (.text [])
  case : Setting := .value "mixed"
  encoding : Setting := .value "latin-1"
  sortMembers : Setting := .value (.bool false)
  typeMode : Setting := .value (.bool false)
  outputFile : Setting := .value .null
  statusFile : Setting := .value .null
  logLevel : Setting := .value "INFO"
  verbose : Setting := .value (.bool false)
  quiet : Setting := .value (.bool false)

namespace Settings

def default : Settings := {}

def get (s : Settings) : Key → Setting
  | .copybooks => s.copybooks
  | .directories => s.directories
  | .rulesFile => s.rulesFile
  | .ruleGroup => s.ruleGroup
  | .namespacePrefix => s.namespacePrefix
  | .case => s.case
  | .encoding => s.encoding
  | .sortMembers => s.sortMembers
  | .typeMode => s.typeMode
  | .outputFile => s.outputFile
  | .statusFile => s.statusFile
  | .logLevel => s.logLevel
  | .verbose => s.verbose
  | .quiet => s.quiet

def ofKeys (f : Key → Setting) : Settings :=
  ⟨f .copybooks, f .directories, f .rulesFile, f .ruleGroup, f .namespacePrefix, f .case,
   f .encoding, f .sortMembers, f .typeMode, f .outputFile, f .statusFile, f .logLevel, f .verbose,
   f .quiet⟩

@[simp] theorem get_ofKeys (f : Key → Setting) (k : Key) : (ofKeys f).get k = f k := by
  cases k <;> rfl

@[simp] theorem ofKeys_get (s : Settings) : ofKeys s.get = s := rfl

theorem ext_get {s t : Settings} (h : ∀ k, s.get k = t.get k) : s = t := by
  rw [← ofKeys_get s, ← ofKeys_get t, funext h]

def set (key : Key) (value : Setting) (s : Settings) : Settings :=
  ofKeys fun k => if k = key then value else s.get k

def readKeys (read : Key → Except Fault (Option Setting)) : List Key → Settings →
    Except Fault Settings
  | [], s => .ok s
  | key :: rest, s => do
    match ← read key with
    | none => readKeys read rest s
    | some value => readKeys read rest (s.set key value)

/-- The settings that named values give; a key without a value has its default, and other names are
passed over. -/
def ofFields (fields : List (Text × Json.Value)) : Except Fault Settings :=
  readKeys (fun key =>
    match Association.find? key.word fields with
    | none => .ok none
    | some v => (Setting.ofJson key.form v).map some) Key.all default

def notAPair (index length : Nat) : Fault :=
  .unusable ("dictionary update sequence element #" ++ Text.ofNat index ++ " has length " ++
    Text.ofNat length ++ "; 2 is required")

/-- The name and the value of an entry in a list of pairs. A name that is no text names nothing, but
it may not be a list or an object. -/
def pairOf (index : Nat) (v : Json.Value) : Except Fault (Option (Text × Json.Value)) := do
  match ← Untyped.elements v with
  | [.text name, value] => return some (name, value)
  | [.list _, _] | [.object _, _] => .error .wrongType
  | [_, _] => return none
  | items => .error (notAPair index items.length)

def pairsOf (index : Nat) : List Json.Value → Except Fault (List (Text × Json.Value))
  | [] => .ok []
  | v :: rest => do
    let pair ← pairOf index v
    return pair.toList ++ (← pairsOf (index + 1) rest)

/-- The named values of a document: an object, or a list of pairs. -/
def fieldsOf : Json.Value → Except Fault (List (Text × Json.Value))
  | .object fields => .ok fields
  | v => do return Association.ofList (← pairsOf 0 (← Untyped.elements v))

def ofJson (v : Json.Value) : Except Fault Settings := do ofFields (← fieldsOf v)

def isWritable (s : Settings) : Bool := Key.all.all fun k => (s.get k).isWritable

def fields (s : Settings) : List (Text × Json.Value) :=
  Key.all.map fun k => (k.word, (s.get k).toJson)

def toJson (s : Settings) : Except Fault Json.Value :=
  if s.isWritable then .ok (.object s.fields) else .error (.numeral .tooLongToWrite)

/-- Lays settings over others: of each key the upper setting if it differs from the default, and
else the lower one. Both are taken in their written form and read again. -/
def merge (lower upper : Settings) : Except Fault Settings :=
  if lower.isWritable && upper.isWritable then
    readKeys (fun key =>
      let chosen :=
        if (upper.get key).toJson.alike (default.get key).toJson then (lower.get key).toJson
        else (upper.get key).toJson
      (Setting.ofJson key.form chosen).map some) Key.all default
  else .error (.numeral .tooLongToWrite)

def agrees (s t : Settings) : Bool := Key.all.all fun k => (s.get k).alike (t.get k)

def save (s : Settings) (files : Files.Tree) (path : Path) : Except Fault Files.Tree := do
  let data ← (← s.toJson).written.mapError .numeral
  let document := Json.write (some Json.usualIndent) data
  (files.write path (Encoding.encodeUtf8 document)).mapError .files

def load (depth : Json.Depth) (files : Files.Tree) (path : Path) : Except Fault Settings := do
  let bytes ← (files.read path).mapError .files
  let document ← (Encoding.readAll bytes).mapError fun fault => .decoding (.undecodable fault)
  ofJson (← (Json.read depth document).mapError (Fault.ofJson document))

end Settings
end Copybook
