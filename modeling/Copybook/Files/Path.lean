import Copybook.Text.Basic

/-!
Paths in one form: no empty parts and no single points, while double points stay, since what they
mean depends on the files. -/
namespace Copybook

structure Path where
  /-- The slashes in front of an absolute path. -/
  root : Text
  parts : List Text
  deriving DecidableEq, Repr

namespace Path

def rootOf (t : Text) : Text :=
  match (t.takeWhile fun c => c = '/').length with
  | 0 => []
  | 2 => ['/', '/']
  | _ => ['/']

def isStep (part : Text) : Bool := !part.isEmpty && part != ['.']

def ofText (t : Text) : Path := ⟨rootOf t, (Text.splitOn '/' t).filter isStep⟩

/-- The text of a path; the current directory is a point. -/
def toText (p : Path) : Text :=
  if p.root.isEmpty && p.parts.isEmpty then ['.'] else p.root ++ Text.join ['/'] p.parts

def name (p : Path) : Text := p.parts.getLast?.getD []

def parent (p : Path) : Path := { p with parts := p.parts.dropLast }

def child (p : Path) (name : Text) : Path := { p with parts := p.parts ++ [name] }

/-- The ending of a name from its last point on; the point is neither first nor last. -/
def suffix (p : Path) : Text :=
  let ending := (p.name.reverse.takeWhile fun c => c != '.').reverse
  if ending.isEmpty || p.name.length ≤ ending.length + 1 then [] else '.' :: ending

@[simp] theorem name_child (p : Path) (name : Text) : (p.child name).name = name := by
  simp [child, Path.name]

end Path
end Copybook
