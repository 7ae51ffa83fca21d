import Copybook.Json.Writer

/-!
Data objects: the record layouts that a harvest yields, with their attributes and the codes that an
attribute may take. -/
namespace Copybook

/-- A permitted value of an attribute, under the name of its condition. -/
structure Code where
  value : Text
  description : Text := []
  deriving DecidableEq, Repr

structure Attribute where
  name : Text
  /-- The position among the attributes of the data object, from 1. -/
  seqNo : Nat := 0
  dataType : Text := []
  commonType : Text := []
  defaultValue : Text := []
  codes : List Code := []
  logicalName : Text := []
  key : Text := []
  parentAttribute : Text := []
  required : Bool := false
  source : Text := []
  summary : Text := []
  description : Text := []
  tags : List Text := []
  extended : List (Text × Text) := []
  deriving DecidableEq, Repr

structure DataObject where
  name : Text
  nameSpace : Text := []
  attributes : List Attribute := []
  logicalName : Text := []
  source : Text := []
  summary : Text := []
  description : Text := []
  tags : List Text := []
  extended : List (Text × Text) := []
  deriving DecidableEq, Repr

def Code.toJson (c : Code) : Json.Value :=
  .object [("value", .text c.value), ("description", .text c.description)]

namespace Attribute

def addCode (a : Attribute) (code : Code) : Attribute := { a with codes := a.codes ++ [code] }

def textsJson (ts : List Text) : Json.Value := .list (ts.map .text)

def extendedJson (entries : List (Text × Text)) : Json.Value :=
  .object (entries.map fun entry => (entry.1, .text entry.2))

def toJson (a : Attribute) : Json.Value :=
  .object [("name", .text a.name), ("seq_no", .int a.seqNo), ("data_type", .text a.dataType),
    ("common_type", .text a.commonType), ("default_value", .text a.defaultValue),
    ("codes", .list (a.codes.map Code.toJson)), ("logical_name", .text a.logicalName),
    ("key", .text a.key), ("parent_attribute", .text a.parentAttribute),
    ("required", .bool a.required), ("source", .text a.source), ("summary", .text a.summary),
    ("description", .text a.description), ("tags", textsJson a.tags),
    ("extended_properties", extendedJson a.extended)]

end Attribute

namespace DataObject

def attribute? (o : DataObject) (name : Text) : Option Attribute :=
  o.attributes.find? fun a => a.name = name

def toJson (o : DataObject) : Json.Value :=
  .object [("name", .text o.name), ("namespace", .text o.nameSpace),
    ("attributes", .list (o.attributes.map Attribute.toJson)),
    ("logical_name", .text o.logicalName), ("source", .text o.source),
    ("summary", .text o.summary), ("description", .text o.description),
    ("tags", Attribute.textsJson o.tags),
    ("extended_properties", Attribute.extendedJson o.extended)]

def document (indent : Option Text) (objects : List DataObject) : Text :=
  Json.write indent (.list (objects.map toJson))

end DataObject
end Copybook
