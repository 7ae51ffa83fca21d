import Copybook.Rule.Builder
import Copybook.Untyped.Basic

/-!
Rules given as values of any kind: builders that take any keys and rules, rows to fill them with, and
look-ups whose values and default may be anything. -/
namespace Copybook
namespace Untyped

abbrev Table := Rule.Table Json.Value Json.Value

abbrev Builder := Rule.Builder Json.Value Json.Value

structure Filling where
  builder : Builder
  fault : Option Fault

/-- Adds a rule. A category is there before the name is looked at. -/
def addRule (b : Builder) (category name rule : Json.Value) : Filling :=
  match key category, key name with
  | .error fault, _ => ⟨b, some fault⟩
  | .ok _, .ok _ => ⟨b.add category name rule, none⟩
  | .ok _, .error fault => ⟨(b.openCategory category).2, some fault⟩

def rowFault (cells : List Json.Value) : Fault :=
  .unusable (if cells.length < 3 then
    "not enough values to unpack (expected 3, got " ++ Text.ofNat cells.length ++ ")"
    else "too many values to unpack (expected 3)")

def addRow (b : Builder) (row : Json.Value) : Filling :=
  match elements row with
  | .error fault => ⟨b, some fault⟩
  | .ok [category, name, rule] => addRule b category name rule
  | .ok cells => ⟨b, some (rowFault cells)⟩

def addRows (b : Builder) : List Json.Value → Filling
  | [] => ⟨b, none⟩
  | row :: rest =>
    match addRow b row with
    | ⟨b, none⟩ => addRows b rest
    | filling => filling

def addAll (b : Builder) (rows : Json.Value) : Filling :=
  match elements rows with
  | .error fault => ⟨b, some fault⟩
  | .ok rows => addRows b rows

def Filling.result (f : Filling) : Except Fault Table :=
  match f.fault with
  | some fault => .error fault
  | none => .ok f.builder.table

def tableOf (rows : Json.Value) : Except Fault Table := (addAll (.new .null) rows).result

def addCategory (s : Rule.Store) (category : Json.Value × List (Json.Value × Json.Value)) :
    Rule.Store :=
  category.2.foldl (fun s entry => s.add category.1.text? entry.1.text? entry.2) s

/-- The store of some rows, in which a category or name that is no text counts as missing. -/
def storeOf (rows : Json.Value) : Except Fault Rule.Store :=
  (tableOf rows).map fun t => t.categories.foldl addCategory (.empty .null)

/-- A category under the key with which it was added first. -/
def category? (t : Table) (category : Json.Value) :
    Except Fault (Option (Json.Value × List (Json.Value × Json.Value))) :=
  (key category).map fun category => t.categories.find? fun entry => entry.1 == category

/-- The rule of a name in a category. The name is looked at only where there is the category. -/
def rule? (t : Table) (category name : Json.Value) : Except Fault (Option Json.Value) := do
  match ← category? t category with
  | none => return none
  | some (_, rules) => return Association.find? (← key name) rules

def valuesOf (pairs : List Json.Value) : Except Fault (List (Json.Value × Json.Value)) :=
  (pairs.mapM fun (pair : Json.Value) => match pair with
    | .list [name, value] => (key name).map fun name => (name, value)
    | _ => .error .wrongType).map Association.ofList

/-- Replaces placeholders one after the other; template and value both have to be texts. -/
def substitute (template : Json.Value) :
    List (Json.Value × Json.Value) → Except Fault Json.Value
  | [] => .ok template
  | (name, value) :: rest =>
    match template, value with
    | .text t, .text new =>
      match name.display with
      | .error problem => .error (.numeral problem)
      | .ok name => substitute (.text (Rule.substitute [(name, new)] t)) rest
    | .text _, _ => .error .wrongType
    | _, _ => .error .wrongShape

/-- Replaces the spans of a rule. In what is no text the mark of a span is looked for as an element. -/
def process : Json.Value → Except Failure Json.Value
  | .text t => ((Rule.process t).mapError (·.toFailure)).map .text
  | v => match elements v with
    | .error fault => .error (.fault fault)
    | .ok parts =>
      if parts.contains (.text ['[', '!']) then .error (.fault .wrongShape) else .ok v

structure Resolution where
  notes : List Log.Record
  result : Except Failure Json.Value

def resolve (t : Table) (category name : Json.Value) (values : List (Json.Value × Json.Value))
    (default : Json.Value) : Resolution :=
  match rule? t category name with
  | .error fault => ⟨[], .error (.fault fault)⟩
  | .ok none | .ok (some .null) => ⟨Rule.missNotes category name, .ok default⟩
  | .ok (some rule) =>
    ⟨[], match substitute rule values with
      | .error fault => .error (.fault fault)
      | .ok filled => process filled⟩

end Untyped
end Copybook
