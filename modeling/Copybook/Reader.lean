import Copybook.Harvest
import Copybook.Reader.Members
import Copybook.Status

/-!
Readers. A reader is configured once and then yields the data objects of its members one by one. A
problem ends it: the reader lets go of what it holds, reports the problem as a status line, and
raises the same problem from then on. Faults are not handled and leave the reader as it stands. -/
namespace Copybook

inductive Phase
  | unconfigured | configured | reading | done | failed
  deriving DecidableEq, Repr

def Phase.word : Phase → Text
  | .unconfigured => "unconfigured"
  | .configured => "configured"
  | .reading => "reading"
  | .done => "done"
  | .failed => "failed"

structure Reader where
  phase : Phase
  config : Option ReaderConfig
  members : Option Members
  typeMode : Bool
  types : Option TypeTable
  status : StatusLog
  /-- The problem that ended the reader. -/
  problem : Option Problem
  /-- The copybook that is open. -/
  handle : Option Path

namespace Reader

def new : Reader := ⟨.unconfigured, none, none, false, none, .empty, none, none⟩

def name : Text := "CopybookReader"

structure Outcome (α : Type) where
  reader : Reader
  world : World
  result : Except Failure α

def caseMode (r : Reader) : CaseMode :=
  match r.config with
  | some config => config.caseMode
  | none => .mixed

/-- Closes the copybook that is open; when that fails it is logged. -/
def release (r : Reader) (w : World) : Reader × World :=
  match r.handle with
  | none => (r, w)
  | some path =>
    ({ r with handle := none },
      if w.closeFails then
        w.note [⟨.error, Log.Channel.copybooks,
          "Error closing " ++ path.toText ++ ": close failed"⟩]
      else w)

/-- Ends the reader with a problem. A sink that does not take the report is only logged. -/
def fail {α : Type} (r : Reader) (w : World) (problem : Problem) : Outcome α :=
  let (r, w) := r.release w
  let r := { r with phase := .failed, problem := some problem }
  match r.status.append problem.message w with
  | ⟨status, w, none⟩ => ⟨{ r with status := status }, w, .error (.problem problem)⟩
  | ⟨status, w, some trouble⟩ =>
    ⟨{ r with status := status },
      w.note [⟨.error, Log.Channel.readers,
        "Unable to report " ++ problem.message ++ ": " ++ trouble.message⟩],
      .error (.problem problem)⟩

def checkTypeMode (config : ReaderConfig) : Except Problem Unit :=
  match config.scope with
  | .copybook => .ok ()
  | .directory => .error (.typeMode "Type mode is only supported for copybook scope")

/-- Notes types from now on instead of mapping them; only before the first read. -/
def enableTypeMode (r : Reader) : Reader × Except Problem Unit :=
  if r.phase != .unconfigured && r.phase != .configured then
    (r, .error (.typeMode "Type mode must be enabled before the first read"))
  else
    match (match r.config with
      | some config => checkTypeMode config
      | none => .ok ()) with
    | .error problem => (r, .error problem)
    | .ok () =>
      ({ r with typeMode := true, types := some .empty,
                status := { r.status with suppressed := true } }, .ok ())

def typeTable (r : Reader) : Except Problem TypeTable :=
  match r.typeMode, r.types with
  | true, some table => .ok table
  | _, _ => .error (.typeMode "Type metadata is only available in type mode")

def init (r : Reader) (p : Parameters) (w : World) : Outcome Unit :=
  match ReaderConfig.ofParameters w.files p with
  | .error (.fault fault) => ⟨r, w, .error (.fault fault)⟩
  | .error (.problem problem) => { r with config := none }.fail w problem
  | .ok config =>
    match Members.trouble? w.files config.source with
    | some fault => ⟨r, w, .error (.fault (.files fault))⟩
    | none =>
      let r := { r with config := some config, members := some (Members.ofConfig w.files config) }
      match (if r.typeMode then checkTypeMode config else .ok ()) with
      | .error problem => { r with config := none }.fail w problem
      | .ok () =>
        ⟨{ r with phase := .configured },
          w.note [⟨.debug, Log.Channel.readers, name ++ " configured"⟩], .ok ()⟩

/-- The namespace of a copybook's data object: the rule for namespaces, or the bare text that was
configured. -/
def namespaceOf (r : Reader) (config : ReaderConfig) (path : Path) : Rule.Resolution :=
  if r.typeMode then ⟨[], .ok (some config.namespacePrefix)⟩
  else
    Rule.resolve config.rules (some "namespace") (some "name")
      [("prefix", config.namespacePrefix), ("schema", path.parent.name)]
      (some config.namespacePrefix)

def openCopybook (files : Files.Tree) (path : Path) (encoding : Json.Value) :
    Except Failure (Bytes × Encoding.Decoder) :=
  match encoding with
  | .text name =>
    if name.contains '\x00' then .error (.fault (.unusable "embedded null character"))
    else match files.read path with
      | .error (.trouble trouble place) =>
        .error (.problem (.source ("Unable to open copybook " ++ path.toText ++ ": " ++
          (Files.Fault.trouble trouble place).message)))
      | .error .nullCharacter => .error (.fault (.files .nullCharacter))
      | .ok bytes =>
        match Encoding.decoderFor name with
        | .error fault => .error (.fault (.encodingName fault))
        | .ok decoder => .ok (bytes, decoder)
  | _ => .error (.fault .wrongType)

def readingFailure (path : Path) : Encoding.Failure → Failure
  | .undecodable fault =>
    .problem (.read ("Error reading copybook " ++ path.toText ++ ": " ++ fault.message))
  | failure => .fault (.decoding failure)

def mapping (r : Reader) (config : ReaderConfig) : Mapping :=
  if r.typeMode then .types else .rules config.rules

def addRows (types : Option TypeTable) (rows : List TypeRow) : Option TypeTable :=
  types.map fun table => rows.foldl TypeTable.add table

def harvest (r : Reader) (w : World) (config : ReaderConfig) (path : Path)
    (opened : Bytes × Encoding.Decoder) : Outcome (List Attribute) :=
  let delivery := Encoding.deliver opened.2 opened.1
  let (h, failure) := Harvest.ofLines (r.mapping config) config.caseMode path.name delivery.lines
    (delivery.failure.map (readingFailure path))
  let (r, w) := { r with handle := some path, types := addRows r.types h.rows }.release
    (w.note h.notes)
  ⟨r, w, match failure with
    | some failure => .error failure
    | none => .ok h.attributes⟩

def takeUp (r : Reader) (w : World) (config : ReaderConfig) (path : Path) : Outcome DataObject :=
  let resolved := r.namespaceOf config path
  let w := w.note resolved.notes
  match resolved.result with
  | .error failure => ⟨r, w, .error failure.toFailure⟩
  | .ok nameSpace =>
    match r.status.banner ("Importing " ++ path.name) w with
    | ⟨status, w, some problem⟩ => ⟨{ r with status := status }, w, .error (.problem problem)⟩
    | ⟨status, w, none⟩ =>
      let r := { r with status := status }
      let w := w.note [⟨.info, Log.Channel.copybooks, "Importing " ++ path.toText⟩]
      match openCopybook w.files path config.encoding with
      | .error failure => ⟨r, w, .error failure⟩
      | .ok opened =>
        match r.harvest w config path opened with
        | ⟨r, w, .error failure⟩ => ⟨r, w, .error failure⟩
        | ⟨r, w, .ok attributes⟩ =>
          ⟨r, w.note [⟨.debug, Log.Channel.copybooks, path.name ++ ": " ++
              Text.ofNat attributes.length ++ " attributes"⟩],
            .ok { name := config.caseMode.convert path.name,
                  nameSpace := config.caseMode.convert (nameSpace.getD []),
                  attributes := attributes, source := path.toText }⟩

def readNext (r : Reader) (w : World) : Outcome (Option DataObject) :=
  match r.config, r.members with
  | some config, some members =>
    match members.next with
    | (none, _) => ⟨r, w, .ok none⟩
    | (some path, members) =>
      let outcome := { r with members := some members }.takeUp w config path
      ⟨outcome.reader, outcome.world, outcome.result.map some⟩
  | _, _ => ⟨r, w, .error (.fault .wrongShape)⟩

/-- Reads the next data object; `none` says that there are no more. -/
def read (r : Reader) (w : World) : Outcome (Option DataObject) :=
  match r.phase, r.problem with
  | .failed, some problem => ⟨r, w, .error (.problem problem)⟩
  | .unconfigured, _ => r.fail w (.notConfigured name)
  | .done, _ => ⟨r, w, .ok none⟩
  | _, _ =>
    match { r with phase := .reading }.readNext w with
    | ⟨r, w, .error (.problem problem)⟩ => r.fail w problem
    | ⟨r, w, .ok none⟩ => ⟨{ r with phase := .done }, w, .ok none⟩
    | outcome => outcome

def close (r : Reader) (w : World) : Reader × World := r.release w

end Reader
end Copybook
