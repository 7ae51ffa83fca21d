import Copybook.Reader.Config

/-!
The members of a source, handed out one after the other: the copybook itself, or the regular files
that a directory held when the reader was configured. -/
namespace Copybook

structure Members where
  scope : Scope
  all : List Path
  taken : Nat
  deriving DecidableEq, Repr

namespace Members

def entries (files : Files.Tree) (directory : Path) : List Path :=
  match files.locate directory with
  | .ok place => (files.members place).map directory.child
  | .error _ => []

/-- The regular files of a directory in the order in which it lists them. -/
def listed (files : Files.Tree) (directory : Path) : List Path :=
  (entries files directory).filter fun path =>
    match files.hasFile path with
    | .ok there => there
    | .error _ => false

/-- The trouble of listing a source: an entry of a directory may have too long a path to be looked
at. -/
def trouble? (files : Files.Tree) : Source → Option Files.Fault
  | .copybook _ => none
  | .directory path => (entries files path).findSome? fun path =>
    match files.hasFile path with
    | .ok _ => none
    | .error fault => some fault

def nameLe (p q : Path) : Bool := !decide (q.name < p.name)

def ofSource (files : Files.Tree) (sorted : Bool) : Source → Members
  | .copybook path => ⟨.copybook, [path], 0⟩
  | .directory path =>
    let paths := listed files path
    ⟨.directory, if sorted then paths.mergeSort nameLe else paths, 0⟩

def ofConfig (files : Files.Tree) (c : ReaderConfig) : Members :=
  ofSource files c.sortMembers c.source

def size (m : Members) : Nat := m.all.length

def next (m : Members) : Option Path × Members :=
  match m.all[m.taken]? with
  | some path => (some path, { m with taken := m.taken + 1 })
  | none => (none, m)

end Members
end Copybook
