import Copybook.Failure

/-!
Values of any kind in the place of texts, lists and keys. A caller who holds JSON values may hand
over anything, and what a value cannot do is a fault. -/
namespace Copybook
namespace Untyped

/-- A text; a value of another kind lacks what is asked of a text. -/
def text : Json.Value → Except Fault Text
  | .text t => .ok t
  | _ => .error .wrongShape

/-- What a value yields when it is gone through: a text its characters, an object its keys. -/
def elements : Json.Value → Except Fault (List Json.Value)
  | .list items => .ok items
  | .text t => .ok (t.map fun c => .text [c])
  | .object fields => .ok (fields.map fun entry => .text entry.1)
  | _ => .error .wrongType

/-- A key; lists and objects cannot be one. -/
def key : Json.Value → Except Fault Json.Value
  | .list _ | .object _ => .error .wrongType
  | v => .ok v

def noEntry (position : Nat) : Fault := .noEntry (Text.ofNat position)

end Untyped
end Copybook
