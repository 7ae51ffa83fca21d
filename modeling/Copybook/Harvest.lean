import Copybook.Entry
import Copybook.Failure
import Copybook.Record
import Copybook.Rule.Store
import Copybook.Sentence
import Copybook.TypeTable

/-!
The harvest of one copybook. Every entry with a name and a type becomes an attribute, and every
condition name with a value becomes a code of the attribute before it. Types are mapped by rules, or
in type mode noted in rows. -/
namespace Copybook

/-- How a harvest goes about types: by rules, or by noting what was declared. -/
inductive Mapping
  | rules (store : Rule.Store)
  | types

structure Harvest where
  attributes : List Attribute
  rows : List TypeRow
  notes : List Log.Record

namespace Harvest

def empty : Harvest := ⟨[], [], []⟩

def note (h : Harvest) (records : List Log.Record) : Harvest := { h with notes := h.notes ++ records }

abbrev Outcome := Harvest × Option Failure

def addCode (code : Code) : List Attribute → Option (List Attribute)
  | [] => none
  | [a] => some [a.addCode code]
  | a :: rest => (addCode code rest).map (a :: ·)

def ruleValues (e : Entry) : List (Text × Text) :=
  [("type", e.typeName), ("size", Text.ofNat e.size), ("scale", Text.ofNat e.scale),
   ("usage", e.usage)]

def typeRow (e : Entry) : TypeRow :=
  [("attribute", e.name), ("declaration", e.declaredType), ("type", e.typeName),
   ("size", Text.ofNat e.size), ("scale", Text.ofNat e.scale), ("usage", e.usage)]

structure Mapped where
  notes : List Log.Record
  result : Except Failure Attribute

/-- Maps the type of an entry by rules. Without a rule the declaration itself is the data type, and
the common type is empty. -/
def mapEntry (store : Rule.Store) (mode : CaseMode) (e : Entry) (seqNo : Nat) : Mapped :=
  let dataType :=
    Rule.resolve store (some "data-type") (some e.typeName) (ruleValues e) (some e.declaredType)
  match dataType.result with
  | .error failure => ⟨dataType.notes, .error failure.toFailure⟩
  | .ok data =>
    let commonType :=
      Rule.resolve store (some "common-type") (some e.typeName) (ruleValues e) (some [])
    ⟨dataType.notes ++ commonType.notes,
      match commonType.result with
      | .error failure => .error failure.toFailure
      | .ok common => .ok
          { name := mode.convert e.name, seqNo := seqNo, dataType := mode.convert (data.getD []),
            commonType := mode.convert (common.getD []), defaultValue := mode.convert e.value }⟩

def addEntry (mapping : Mapping) (mode : CaseMode) (e : Entry) (h : Harvest) : Outcome :=
  let seqNo := h.attributes.length + 1
  match mapping with
  | .types =>
    let a : Attribute := { name := mode.convert e.name, seqNo := seqNo }
    ({ h with attributes := h.attributes ++ [a], rows := h.rows ++ [typeRow e] }, none)
  | .rules store =>
    let mapped := mapEntry store mode e seqNo
    match mapped.result with
    | .error failure => (h.note mapped.notes, some failure)
    | .ok a => ({ h with attributes := h.attributes ++ [a] }.note mapped.notes, none)

/-- Whether an entry is a condition name with a name and a value. -/
def isCode (e : Entry) : Bool := e.isConditionName && !e.value.isEmpty && !e.name.isEmpty

/-- Whether an entry that is no code becomes an attribute. -/
def isItem (e : Entry) : Bool := !e.name.isEmpty && !e.typeName.isEmpty

def take (mapping : Mapping) (mode : CaseMode) (copybook : Text) (s : Sentence) (h : Harvest) :
    Outcome :=
  if s.text.isEmpty then (h, none)
  else match Entry.read s.text with
    | .error failure => (h, some (failure.toFailure (some copybook) s.line))
    | .ok e =>
      let h := h.note e.notes
      if isCode e then
        match addCode ⟨mode.convert e.value, mode.convert e.name⟩ h.attributes with
        | some attributes => ({ h with attributes := attributes }, none)
        | none =>
          (h, some ((EntryFailure.malformed (.orphanCondition e.name)).toFailure
            (some copybook) s.line))
      else if isItem e then addEntry mapping mode e h
      else (h, none)

/-- Takes up sentences until one of them fails. -/
def takeAll (mapping : Mapping) (mode : CaseMode) (copybook : Text) :
    List Sentence → Harvest → Outcome
  | [], h => (h, none)
  | s :: rest, h =>
    match take mapping mode copybook s h with
    | (h, none) => takeAll mapping mode copybook rest h
    | outcome => outcome

/-- The harvest of lines, which may break off with a failure of their own. A sentence that is still
open then is lost; at the end of all lines it is taken up after a warning. -/
def ofLines (mapping : Mapping) (mode : CaseMode) (copybook : Text) (lines : List Text)
    (failure : Option Failure) : Outcome :=
  let scan := Sentence.scan lines
  match takeAll mapping mode copybook scan.closed empty with
  | (h, some failure) => (h, some failure)
  | (h, none) =>
    match failure with
    | some failure => (h, some failure)
    | none => takeAll mapping mode copybook scan.pending.toList (h.note scan.notes)

end Harvest
end Copybook
