import Copybook.Association
import Copybook.Binary64
import Copybook.Text.Numeral

/-!
JSON values. Objects keep the order of their keys, which are distinct, and whole numbers are kept
apart from numbers with a point or an exponent. -/
namespace Copybook
namespace Json

inductive Value
  | null
  | bool (b : Bool)
  | int (n : Int)
  | float (x : Binary64)
  | text (t : Text)
  | list (items : List Value)
  | object (fields : List (Text × Value))
  deriving Inhabited, Repr

namespace Value

instance : Coe Text Value := ⟨.text⟩
instance : Coe String Value := ⟨fun s => .text s.toList⟩

def ofOption : Option Text → Value
  | some t => .text t
  | none => .null

def text? : Value → Option Text
  | .text t => some t
  | _ => none

def get? (key : Text) : Value → Option Value
  | .object fields => Association.find? key fields
  | _ => none

/-- Whether a value counts as true: all do but null, false, zero and what is empty. -/
def isTruthy : Value → Bool
  | .null => false
  | .bool b => b
  | .int n => n != 0
  | .float x => !x.isZero
  | .text t => !t.isEmpty
  | .list items => !items.isEmpty
  | .object fields => !fields.isEmpty

/-- Equality of a number with a value, where true and false count as one and zero. -/
def equalsInt (n : Int) : Value → Bool
  | .bool b => n == (if b then 1 else 0)
  | .int k => n == k
  | .float x => match x.toFraction? with
    | some (k, d) => n * d == k
    | none => false
  | _ => false

mutual

/-- Equality up to the kind of number and the order of keys. -/
def alike : Value → Value → Bool
  | .null, .null => true
  | .bool b, v => equalsInt (if b then 1 else 0) v
  | .int n, v => equalsInt n v
  | .float x, .float y => x.equals y
  | .float x, v => match x.toFraction? with
    | some (n, d) => n % d == 0 && equalsInt (n / d) v
    | none => false
  | .text s, .text t => s == t
  | .list items, .list others => alikeItems items others
  | .object fields, .object others => fields.length == others.length && alikeFields fields others
  | _, _ => false

def alikeItems : List Value → List Value → Bool
  | [], [] => true
  | v :: items, w :: others => alike v w && alikeItems items others
  | _, _ => false

def alikeFields : List (Text × Value) → List (Text × Value) → Bool
  | [], _ => true
  | (key, v) :: fields, others =>
    (match Association.find? key others with
      | some w => alike v w
      | none => false) && alikeFields fields others

end

instance : BEq Value := ⟨alike⟩

mutual

/-- Whether no whole number in a value has too many digits to be written. -/
def isWritable : Value → Bool
  | .int n => (Numeral.write n).isOk
  | .list items => isWritableItems items
  | .object fields => isWritableFields fields
  | _ => true

def isWritableItems : List Value → Bool
  | [] => true
  | v :: items => isWritable v && isWritableItems items

def isWritableFields : List (Text × Value) → Bool
  | [] => true
  | (_, v) :: fields => isWritable v && isWritableFields fields

end

mutual

/-- The text of a value inside another one, where text stands in quotes. -/
def inner : Value → Text
  | .null => "None"
  | .bool b => if b then "True" else "False"
  | .int n => Text.ofInt n
  | .float x => x.write
  | .text t => t.quoted
  | .list items => "[" ++ Text.join ", " (innerItems items) ++ "]"
  | .object fields => "\x7b" ++ Text.join ", " (innerFields fields) ++ "\x7d"

def innerItems : List Value → List Text
  | [] => []
  | v :: items => inner v :: innerItems items

def innerFields : List (Text × Value) → List Text
  | [] => []
  | (key, v) :: fields => (key.quoted ++ ": " ++ inner v) :: innerFields fields

end

/-- The text of a value that can be written; a text is itself. -/
def shown : Value → Text
  | .text t => t
  | v => inner v

/-- The value, or why it cannot be written. -/
def written (v : Value) : Except Numeral.Problem Value :=
  if v.isWritable then .ok v else .error .tooLongToWrite

def display (v : Value) : Except Numeral.Problem Text := v.written.map shown

end Value
end Json
end Copybook
