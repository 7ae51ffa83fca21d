import Copybook.Association
import Copybook.Encoding.Step
import Copybook.Files.Path
import Copybook.Text.Quoted

/-!
Files as a plain value. A node is listed with its place, the names that lead to it from the root; the
order of the nodes is the order in which a directory lists its members. Paths are followed name by
name, from the root or from the working directory, so that a double point behind a missing directory
leads nowhere. Nothing else stands in the way of a file that is there: permissions, links and devices
that fail are left out. -/
namespace Copybook
namespace Files

inductive Trouble
  | notFound | exists | notADirectory | isADirectory | nameTooLong
  deriving DecidableEq, Repr

def Trouble.number : Trouble → Nat
  | .notFound => 2
  | .exists => 17
  | .notADirectory => 20
  | .isADirectory => 21
  | .nameTooLong => 36

def Trouble.words : Trouble → Text
  | .notFound => "No such file or directory"
  | .exists => "File exists"
  | .notADirectory => "Not a directory"
  | .isADirectory => "Is a directory"
  | .nameTooLong => "File name too long"

/-- Trouble with a path, or a path with a null character, which no file can have. -/
inductive Fault
  | trouble (t : Trouble) (path : Text)
  | nullCharacter
  deriving DecidableEq, Repr

def Fault.message : Fault → Text
  | .trouble t path => "[Errno " ++ Text.ofNat t.number ++ "] " ++ t.words ++ ": " ++ path.quoted
  | .nullCharacter => "embedded null byte"

inductive Node
  | directory
  | file (content : Bytes)
  deriving DecidableEq, Repr

/-- The names that lead from the root to a node. -/
abbrev Place := List Text

structure Tree where
  /-- The place of the working directory. -/
  working : Place
  nodes : List (Place × Node)
  deriving DecidableEq, Repr

namespace Tree

def node? (t : Tree) : Place → Option Node
  | [] => some .directory
  | place => Association.find? place t.nodes

def isTooLong (limit : Nat) (name : Text) : Bool := limit < (name.flatMap String.utf8EncodeChar).length

/-- The place one name away from a directory; above the root there is only the root. -/
def step (name : Text) (place : Place) : Place :=
  if name = ['.', '.'] then place.dropLast else place ++ [name]

/-- Follows names; every place passed has to be a directory. -/
def walk (t : Tree) : Place → List Text → Except Trouble Place
  | start, [] => .ok start
  | start, name :: rest =>
    match t.node? start with
    | none => .error .notFound
    | some (.file _) => .error .notADirectory
    | some .directory =>
      if isTooLong 255 name then .error .nameTooLong else t.walk (step name start) rest

def start (t : Tree) (p : Path) : Place := if p.root.isEmpty then t.working else []

/-- Where a path leads, whether or not something is there. -/
def locate (t : Tree) (p : Path) : Except Fault Place :=
  if p.toText.contains '\x00' then .error .nullCharacter
  else
    let place : Except Trouble Place :=
      if isTooLong 4095 p.toText then .error .nameTooLong else t.walk (t.start p) p.parts
    place.mapError fun trouble => .trouble trouble p.toText

def find (t : Tree) (p : Path) : Except Fault Node :=
  match t.locate p with
  | .error fault => .error fault
  | .ok place =>
    match t.node? place with
    | some node => .ok node
    | none => .error (.trouble .notFound p.toText)

/-- The node at a path, or nothing when the path leads nowhere. -/
def look (t : Tree) (p : Path) : Except Fault (Option Node) :=
  match t.find p with
  | .ok node => .ok (some node)
  | .error (.trouble .nameTooLong path) => .error (.trouble .nameTooLong path)
  | .error _ => .ok none

def hasFile (t : Tree) (p : Path) : Except Fault Bool :=
  (t.look p).map fun node => match node with
    | some (.file _) => true
    | _ => false

def read (t : Tree) (p : Path) : Except Fault Bytes :=
  match t.find p with
  | .ok (.file content) => .ok content
  | .ok .directory => .error (.trouble .isADirectory p.toText)
  | .error fault => .error fault

def put (t : Tree) (place : Place) (node : Node) : Tree :=
  { t with nodes := Association.put place node t.nodes }

/-- Opens a file for writing: it is there afterwards, and empty. -/
def create (t : Tree) (p : Path) : Except Fault (Place × Tree) :=
  match t.locate p with
  | .error fault => .error fault
  | .ok place =>
    match t.node? place with
    | some .directory => .error (.trouble .isADirectory p.toText)
    | _ => .ok (place, t.put place (.file []))

def write (t : Tree) (p : Path) (content : Bytes) : Except Fault Tree :=
  match t.create p with
  | .error fault => .error fault
  | .ok (place, t) => .ok (t.put place (.file content))

def append (t : Tree) (place : Place) (content : Bytes) : Tree :=
  match t.node? place with
  | some (.file old) => t.put place (.file (old ++ content))
  | _ => t

def makeDirectory (t : Tree) (p : Path) : Except Fault Tree :=
  match t.locate p with
  | .error fault => .error fault
  | .ok place =>
    match t.node? place with
    | none => .ok (t.put place .directory)
    | some _ => .error (.trouble .exists p.toText)

def ensureDirectory (t : Tree) (p : Path) : Except Fault Tree :=
  match t.makeDirectory p with
  | .ok t => .ok t
  | .error .nullCharacter => .error .nullCharacter
  | .error (.trouble trouble path) =>
    match t.look p with
    | .ok (some .directory) => .ok t
    | .ok _ => .error (.trouble trouble path)
    | .error fault => .error fault

/-- Makes a directory with the directories above it; `names` are those of the path, the last one
first. What has been made before an error stays. -/
def ensureAll (t : Tree) (root : Text) : List Text → Tree × Option Fault
  | [] =>
    match t.ensureDirectory ⟨root, []⟩ with
    | .ok t => (t, none)
    | .error fault => (t, some fault)
  | name :: above =>
    let p : Path := ⟨root, (name :: above).reverse⟩
    match t.makeDirectory p with
    | .error (.trouble .notFound _) =>
      match t.ensureAll root above with
      | (t, some fault) => (t, some fault)
      | (t, none) =>
        match t.ensureDirectory p with
        | .ok t => (t, none)
        | .error fault => (t, some fault)
    | _ =>
      match t.ensureDirectory p with
      | .ok t => (t, none)
      | .error fault => (t, some fault)

def ensureDirectories (t : Tree) (p : Path) : Tree × Option Fault := t.ensureAll p.root p.parts.reverse

/-- The names that a directory lists, in the order of the nodes. -/
def members (t : Tree) (place : Place) : List Text :=
  t.nodes.filterMap fun (other, _) =>
    match other.getLast? with
    | some name => if other.dropLast = place then some name else none
    | none => none

/-- Puts a node in its place together with the directories above it. -/
def plant (t : Tree) (node : Node) (place : Place) : Tree :=
  let above := (List.range place.length).filterMap fun n =>
    let place := place.take n
    if place.isEmpty || (t.node? place).isSome then none else some place
  let t := above.foldl (fun t place => t.put place .directory) t
  if place.isEmpty then t else t.put place node

def prune (t : Tree) (place : Place) : Tree :=
  { t with nodes := t.nodes.filter fun (other, _) => !place.isPrefixOf other }

def files (t : Tree) : List (Text × Bytes) :=
  t.nodes.filterMap fun (place, node) =>
    match node with
    | .file content =>
      if t.working.isPrefixOf place then
        some (Text.join ['/'] (place.drop t.working.length), content)
      else none
    | .directory => none

/-- The files that are new or have other content than before, sorted by path. -/
def changes (before after : Tree) : List (Text × Bytes) :=
  (after.files.filter fun (path, content) =>
    Association.find? path before.files != some content).mergeSort fun a b => !decide (b.1 < a.1)

end Tree
end Files
end Copybook
