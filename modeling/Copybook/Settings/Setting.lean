import Copybook.Settings.Key
import Copybook.Untyped.Basic

/-!
What a key is set to. Values that are read for a key become paths where the key asks for them. -/
namespace Copybook
namespace Setting

/-- What stands in a list of sources: a path, or a value that names none. -/
inductive Source
  | path (p : Path)
  | value (v : Json.Value)

namespace Source

def data : Source → Json.Value
  | .path p => .text p.toText
  | .value v => v

/-- Whether two sources are equal; a path equals only a path. -/
def alike : Source → Source → Bool
  | .path p, .path q => p = q
  | .value v, .value w => v.alike w
  | _, _ => false

def allAlike : List Source → List Source → Bool
  | [], [] => true
  | e :: rest, f :: others => e.alike f && allAlike rest others
  | _, _ => false

end Source
end Setting

inductive Setting
  | value (v : Json.Value)
  | path (p : Path)
  | several (sources : List Setting.Source)

namespace Setting

def paths (ps : List Path) : Setting := .several (ps.map .path)

/-- A setting as a value; paths are their texts. -/
def data : Setting → Json.Value
  | .value v => v
  | .path p => .text p.toText
  | .several sources => .list (sources.map Source.data)

/-- The written form of a setting, in which every list is a list of texts. -/
def toJson (s : Setting) : Json.Value :=
  match s.data with
  | .list items => .list (items.map fun v => .text v.shown)
  | v => v

/-- Whether the written form can be made: the texts of a list have to be found for it. -/
def isWritable (s : Setting) : Bool :=
  match s.data with
  | .list items => (Json.Value.list items).isWritable
  | _ => true

/-- Whether a setting counts as true; a path always does. -/
def isTruthy (s : Setting) : Bool :=
  match s with
  | .value v => v.isTruthy
  | .path _ => true
  | .several sources => !sources.isEmpty

def list? : Setting → Option (List Source)
  | .several sources => some sources
  | .value (.list items) => some (items.map .value)
  | _ => none

def alike (s t : Setting) : Bool :=
  match s.list?, t.list? with
  | some sources, some others => Source.allAlike sources others
  | none, none =>
    match s, t with
    | .value v, .value w => v.alike w
    | .path p, .path q => p = q
    | _, _ => false
  | _, _ => false

def text : Setting → Except Fault Text
  | .value (.text t) => .ok t
  | _ => .error .wrongShape

def listed (s : Setting) : Except Fault (List Text) :=
  match Untyped.elements s.data with
  | .ok items =>
    if (Json.Value.list items).isWritable then .ok (items.map Json.Value.shown)
    else .error (.numeral .tooLongToWrite)
  | .error fault => .error fault

def pathOf : Json.Value → Except Fault Path
  | .text t => .ok (Path.ofText t)
  | _ => .error .wrongType

def pathsOf : List Json.Value → Except Fault (List Path)
  | [] => .ok []
  | v :: rest => do return (← pathOf v) :: (← pathsOf rest)

/-- The setting that a value gives. A path that does not count as true stays as it is. -/
def ofJson (form : Settings.Form) (v : Json.Value) : Except Fault Setting :=
  match form with
  | .value => .ok (.value v)
  | .path => if v.isTruthy then (pathOf v).map .path else .ok (.value v)
  | .paths => do return .paths (← pathsOf (← Untyped.elements v))

end Setting
end Copybook
