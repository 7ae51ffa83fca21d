import Copybook.Record

/-!
Reading data objects back from their JSON objects. All fields have to be there with values of the
right kinds. What was written for a data object is read as the same one. -/
namespace Copybook
namespace Record

def textAt? (key : Text) (v : Json.Value) : Option Text := (v.get? key).bind Json.Value.text?

def itemsAt? (key : Text) (v : Json.Value) : Option (List Json.Value) :=
  match v.get? key with
  | some (.list items) => some items
  | _ => none

def textsAt? (key : Text) (v : Json.Value) : Option (List Text) :=
  (itemsAt? key v).bind fun items => items.mapM Json.Value.text?

def extendedAt? (key : Text) (v : Json.Value) : Option (List (Text × Text)) :=
  match v.get? key with
  | some (.object fields) =>
    fields.mapM fun entry => entry.2.text?.map fun value => (entry.1, value)
  | _ => none

def numberAt? (key : Text) (v : Json.Value) : Option Nat :=
  match v.get? key with
  | some (.int (.ofNat n)) => some n
  | _ => none

def flagAt? (key : Text) (v : Json.Value) : Option Bool :=
  match v.get? key with
  | some (.bool b) => some b
  | _ => none

theorem mapM_comp_eq_some {α β : Type} {f : α → β} {g : β → Option α} (h : ∀ a, g (f a) = some a)
    (as : List α) : as.mapM (g ∘ f) = some as := by
  induction as with
  | nil => rfl
  | cons a as ih => simp [List.mapM_cons, h, ih]

theorem textsAt?_eq_some {key : Text} {v : Json.Value} {ts : List Text}
    (h : v.get? key = some (Attribute.textsJson ts)) : textsAt? key v = some ts := by
  simp only [textsAt?, itemsAt?, h, Attribute.textsJson, Option.bind_some, List.mapM_map]
  exact mapM_comp_eq_some (fun _ => rfl) ts

theorem extendedAt?_eq_some {key : Text} {v : Json.Value} {entries : List (Text × Text)}
    (h : v.get? key = some (Attribute.extendedJson entries)) :
    extendedAt? key v = some entries := by
  simp only [extendedAt?, h, Attribute.extendedJson, List.mapM_map]
  exact mapM_comp_eq_some (fun _ => rfl) entries

end Record

open Record

def Code.ofJson? (v : Json.Value) : Option Code := do
  return ⟨← textAt? "value" v, ← textAt? "description" v⟩

theorem Code.ofJson?_toJson (c : Code) : Code.ofJson? c.toJson = some c := by
  simp [Code.ofJson?, Code.toJson, textAt?, Json.Value.get?, Association.find?, Json.Value.text?]

def Attribute.ofJson? (v : Json.Value) : Option Attribute := do
  return {
    name := ← textAt? "name" v
    seqNo := ← numberAt? "seq_no" v
    dataType := ← textAt? "data_type" v
    commonType := ← textAt? "common_type" v
    defaultValue := ← textAt? "default_value" v
    codes := ← (← itemsAt? "codes" v).mapM Code.ofJson?
    logicalName := ← textAt? "logical_name" v
    key := ← textAt? "key" v
    parentAttribute := ← textAt? "parent_attribute" v
    required := ← flagAt? "required" v
    source := ← textAt? "source" v
    summary := ← textAt? "summary" v
    description := ← textAt? "description" v
    tags := ← textsAt? "tags" v
    extended := ← extendedAt? "extended_properties" v }

def DataObject.ofJson? (v : Json.Value) : Option DataObject := do
  return {
    name := ← textAt? "name" v
    nameSpace := ← textAt? "namespace" v
    attributes := ← (← itemsAt? "attributes" v).mapM Attribute.ofJson?
    logicalName := ← textAt? "logical_name" v
    source := ← textAt? "source" v
    summary := ← textAt? "summary" v
    description := ← textAt? "description" v
    tags := ← textsAt? "tags" v
    extended := ← extendedAt? "extended_properties" v }

theorem Attribute.ofJson?_toJson (a : Attribute) : Attribute.ofJson? a.toJson = some a := by
  have codes := mapM_comp_eq_some Code.ofJson?_toJson a.codes
  have tags : textsAt? "tags" a.toJson = some a.tags := textsAt?_eq_some (by
    simp [Attribute.toJson, Json.Value.get?, Association.find?])
  have extended : extendedAt? "extended_properties" a.toJson = some a.extended :=
    extendedAt?_eq_some (by simp [Attribute.toJson, Json.Value.get?, Association.find?])
  simp only [Attribute.ofJson?, tags, extended]
  simp [Attribute.toJson, textAt?, numberAt?, flagAt?, itemsAt?, Json.Value.get?,
    Association.find?, Json.Value.text?, codes]

theorem DataObject.ofJson?_toJson (o : DataObject) : DataObject.ofJson? o.toJson = some o := by
  have attributes := mapM_comp_eq_some Attribute.ofJson?_toJson o.attributes
  have tags : textsAt? "tags" o.toJson = some o.tags := textsAt?_eq_some (by
    simp [DataObject.toJson, Json.Value.get?, Association.find?])
  have extended : extendedAt? "extended_properties" o.toJson = some o.extended :=
    extendedAt?_eq_some (by simp [DataObject.toJson, Json.Value.get?, Association.find?])
  simp only [DataObject.ofJson?, tags, extended]
  simp [DataObject.toJson, textAt?, itemsAt?, Json.Value.get?, Association.find?,
    Json.Value.text?, attributes]

end Copybook
