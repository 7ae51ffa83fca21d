import Copybook.Output
import Copybook.Picture
import Copybook.Untyped.Basic

/-!
Data objects whose fields may have values of any kind. A field that is not given has its default, the
name has to be given, and no unknown field may be. -/
namespace Copybook
namespace Untyped

def fields : Json.Value → List (Text × Json.Value)
  | .object entries => entries
  | _ => []

def itemsAt (key : Text) (v : Json.Value) : List Json.Value :=
  match v.get? key with
  | some (.list items) => items
  | _ => []

/-- The given fields over the defaults. -/
def complete (defaults given : List (Text × Json.Value)) : Except Fault Json.Value :=
  let isKnown (key : Text) := (Association.find? key defaults).isSome
  if (Association.find? ("name" : Text) given).isSome && given.all fun entry => isKnown entry.1 then
    .ok (.object (defaults.map fun entry =>
      (entry.1, (Association.find? entry.1 given).getD entry.2)))
  else .error .wrongType

def codeOf (v : Json.Value) : Except Fault Json.Value := do
  match ← elements v with
  | [value] => return .object [("value", value), ("description", .text [])]
  | [value, description] => return .object [("value", value), ("description", description)]
  | _ => .error .wrongType

def attributeOf (v : Json.Value) : Except Fault Json.Value := do
  let codes ← (itemsAt "codes" v).mapM codeOf
  complete (fields (Attribute.toJson { name := [] }))
    (Association.put ("codes" : Text) (.list codes) (fields v))

def objectOf (v : Json.Value) : Except Fault Json.Value := do
  let attributes ← (itemsAt "attributes" v).mapM attributeOf
  complete (fields (DataObject.toJson { name := [] }))
    (Association.put ("attributes" : Text) (.list attributes) (fields v))

def attributes (object : Json.Value) : List Json.Value := itemsAt "attributes" object

def attribute? (object name : Json.Value) : Option Json.Value :=
  (attributes object).find? fun a => a.get? "name" == some name

/-- The unit of indentation that a value stands for: a text itself, a number so many blanks; null
means a document on one line. -/
def indentOf : Json.Value → Except Fault (Option Text)
  | .null => .ok none
  | .text unit => .ok (some unit)
  | .int n =>
    if Picture.maxLength < n.natAbs then .error (.repetition .countTooBig)
    else .ok (some (List.replicate n.toNat ' '))
  | .bool b => .ok (some (if b then [' '] else []))
  | _ => .error .wrongType

def document (indent : Option Text) (objects : List Json.Value) : Text :=
  Json.write indent (.list objects)

def writeObjects (files : Files.Tree) (path : Path) (objects : List Json.Value) : Output.Attempt :=
  Output.write files path (document (some Json.usualIndent) objects) none

end Untyped
end Copybook
