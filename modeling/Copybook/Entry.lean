import Copybook.Clause
import Copybook.Picture.Family
import Copybook.Usage
import Copybook.Log

/-!
Data description entries and the type that picture and usage give them. The picture decides first:
numeric, then alphabetic, then alphanumeric; floating point formats need no picture; anything else
that has a picture or a usage stays unclassified. -/
namespace Copybook

inductive Category
  | unsignedInt | signedInt | unsignedDecimal | signedDecimal | alphabetic | alphanumeric
  | single | double | unclassified
  deriving DecidableEq, Repr

namespace Category

/-- The name under which rules for the category are kept. -/
def name : Category → Text
  | .unsignedInt => "UINT"
  | .signedInt => "SINT"
  | .unsignedDecimal => "UNUM"
  | .signedDecimal => "SNUM"
  | .alphabetic => "ALPHA"
  | .alphanumeric => "ALPHANUM"
  | .single => "FLOAT4"
  | .double => "FLOAT8"
  | .unclassified => "[CK]"

def isDecimal (c : Category) : Bool := c = .unsignedDecimal || c = .signedDecimal

end Category

structure Extent where
  category : Option Category
  size : Nat
  scale : Nat
  deriving DecidableEq, Repr

namespace Extent

def numeric (signed : Bool) (whole fraction : Nat) : Extent :=
  if fraction > 0 then
    ⟨some (if signed then .signedDecimal else .unsignedDecimal), whole + fraction, fraction⟩
  else ⟨some (if signed then .signedInt else .unsignedInt), whole, 0⟩

/-- The type of an item from its expanded picture in capitals and its usage phrase; `declared` says
that it has a picture or a usage at all. -/
def classify (expanded usagePhrase : Text) (declared : Bool) : Extent :=
  match Picture.isSigned? expanded, Picture.integerDigits? expanded,
      Picture.fractionDigits? expanded with
  | some signed, some whole, some fraction => numeric signed whole fraction
  | _, _, _ =>
    if Picture.isAlphabetic expanded then ⟨some .alphabetic, expanded.length, 0⟩
    else if Picture.isAlphanumericPlus expanded then
      ⟨some .alphanumeric, Picture.characterCount expanded, 0⟩
    else if Usage.isSingle usagePhrase then ⟨some .single, 0, 0⟩
    else if Usage.isDouble usagePhrase then ⟨some .double, 0, 0⟩
    else if declared then ⟨some .unclassified, 0, 0⟩
    else ⟨none, 0, 0⟩

end Extent

structure Entry where
  level : Int
  name : Text
  picture : Text
  usagePhrase : Text
  value : Text
  /-- The picture written out, in capitals. -/
  expanded : Text
  deriving DecidableEq, Repr

namespace Entry

def read (text : Text) : Except EntryFailure Entry :=
  let words := text.words
  match Clause.level words with
  | .error flaw => .error (.malformed flaw)
  | .ok level =>
    let picture := Clause.picture words
    match Picture.expand picture with
    | .error failure => .error failure
    | .ok expanded =>
      .ok ⟨level, Clause.name words, picture, Clause.usage words, Clause.value words, expanded.upper⟩

def usage (e : Entry) : Text := if e.usagePhrase.isEmpty then [] else Usage.normalize e.usagePhrase

def declaredType (e : Entry) : Text :=
  Text.join [' '] ([e.picture, e.usagePhrase].filter fun part => !part.isEmpty)

def extent (e : Entry) : Extent :=
  Extent.classify e.expanded e.usagePhrase (!e.picture.isEmpty || !e.usagePhrase.isEmpty)

def category (e : Entry) : Option Category := e.extent.category

def size (e : Entry) : Nat := e.extent.size

def scale (e : Entry) : Nat := e.extent.scale

/-- The name by which rules for the entry's type are found. The name of an unclassified type holds
the declaration itself. -/
def typeName (e : Entry) : Text :=
  match e.category with
  | none => []
  | some .unclassified =>
    Category.unclassified.name ++ [' '] ++ e.picture ++
      (if e.usagePhrase.isEmpty then [] else (" USAGE " : Text) ++ e.usagePhrase)
  | some category => category.name

def isConditionName (e : Entry) : Bool := e.level = 88

def notes (e : Entry) : List Log.Record :=
  if e.expanded.isEmpty then []
  else [⟨.debug, Log.Channel.classifier, (if e.name.isEmpty then ("FILLER" : Text) else e.name) ++ ": " ++
    Picture.compact e.expanded ++ " -> " ++ e.typeName⟩]

end Entry
end Copybook
