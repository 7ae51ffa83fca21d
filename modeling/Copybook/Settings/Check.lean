import Copybook.Log
import Copybook.Settings

/-!
What is wrong with settings. All complaints are listed, in a fixed order. -/
namespace Copybook
namespace Settings

def demand (holds : Bool) (complaint : Text) : List Text := if holds then [] else [complaint]

def sourceComplaint (s : Settings) : List Text :=
  demand (s.copybooks.isTruthy || s.directories.isTruthy) "No copybook or PDS directory given"

def modeComplaint (s : Settings) : List Text :=
  demand (!(s.typeMode.isTruthy && s.directories.isTruthy))
    "Type mode is only supported for copybook scope"

def rulesComplaint (s : Settings) (files : Files.Tree) : Except Fault (List Text) :=
  match s.rulesFile with
  | .value .null => .ok []
  | .path p => do
    let there ← (files.hasFile p).mapError .files
    return demand there ("Rules file does not exist: " ++ p.toText)
  | _ => .error .wrongShape

def prefixComplaint (s : Settings) : Except Fault (List Text) := do
  return demand (!(← s.namespacePrefix.text).trim.isEmpty) "Namespace prefix is empty"

def caseComplaint (s : Settings) : Except Fault (List Text) := do
  let word ← s.case.text
  return demand (CaseMode.ofWord? word.lower).isSome ("Invalid case mode: " ++ word)

def levelComplaint (s : Settings) : Except Fault (List Text) := do
  let word ← s.logLevel.text
  return demand (Log.Level.ofWord? word).isSome ("Invalid log level: " ++ word)

def complaints (s : Settings) (files : Files.Tree) : Except Fault (List Text) := do
  let onRules ← s.rulesComplaint files
  let onPrefix ← s.prefixComplaint
  let onCase ← s.caseComplaint
  let onLevel ← s.levelComplaint
  return s.sourceComplaint ++ s.modeComplaint ++ onRules ++ onPrefix ++ onCase ++ onLevel

end Settings
end Copybook
