import Copybook.Run

/-!
Runs over a single source. Everything but the source, the rules and the namespace prefix is set by
named options. -/
namespace Copybook
namespace Run

/-- Sets what the options name, each value taken as it is. A name that is unknown, or set already, is
refused. -/
def withOptions (taken : List Settings.Key) : List (Text × Json.Value) → Settings →
    Except Fault Settings
  | [], s => .ok s
  | (name, v) :: rest, s =>
    match Settings.Key.ofWord? name with
    | none => .error .wrongType
    | some key =>
      if taken.contains key then .error .wrongType
      else withOptions taken rest (s.set key (.value v))

def performOn (key : Settings.Key) (depth : Json.Depth) (path : Path) (rules : Option Rule.Store)
    (namespacePrefix : Json.Value) (options : List (Text × Json.Value)) (w : World) : Outcome :=
  let s := Settings.default.set key (.paths [path])
  match withOptions [key, .namespacePrefix] options
      (s.set .namespacePrefix (.value namespacePrefix)) with
  | .error fault => ⟨w, rules, [], .error fault⟩
  | .ok s => perform depth s rules w

def importCopybook : Json.Depth → Path → Option Rule.Store → Json.Value →
    List (Text × Json.Value) → World → Outcome :=
  performOn .copybooks

def importDirectory : Json.Depth → Path → Option Rule.Store → Json.Value →
    List (Text × Json.Value) → World → Outcome :=
  performOn .directories

end Run
end Copybook
