import Copybook.Text.Basic
import Copybook.Text.Case.Table
import Copybook.Text.Quoted

/-!
Capital and small forms of text. One character may become several, and a capital sigma becomes the
final small sigma where it ends a word; every other character is converted by itself. -/
namespace Copybook
namespace Case

def Run.holds (r : Run) (n : Nat) : Bool :=
  r.first ≤ n && n ≤ r.last && (n - r.first) % r.step == 0

def move (runs : List Run) (c : Char) : Char :=
  match runs.find? fun r => r.holds c.toNat with
  | some r => Char.ofNat (c.toNat + r.shift).toNat
  | none => c

def inRanges (ranges : List (Nat × Nat)) (c : Char) : Bool :=
  ranges.any fun r => r.1 ≤ c.toNat && c.toNat ≤ r.2

def capital (c : Char) : Text :=
  if c.toNat < 0x80 then [c.toUpper]
  else match longCapitals.lookup c.toNat with
    | some codes => codes.map Char.ofNat
    | none => [move capitalRuns c]

def small (c : Char) : Text :=
  if c.toNat < 0x80 then [c.toLower]
  else if c.toNat = 0x130 then ['i', Char.ofNat 0x307]
  else [move smallRuns c]

def capitalSigma : Char := Char.ofNat 0x3A3

/-- Whether a sigma between the two texts ends a word; `before` runs backwards from it. -/
def endsWord (before after : Text) : Bool :=
  let cased (t : Text) := match t.dropWhile (inRanges ignorableRanges) with
    | [] => false
    | c :: _ => inRanges casedRanges c
  cased before && !cased after

def lowerAfter : Text → Text → Text
  | _, [] => []
  | before, c :: r =>
    (if c = capitalSigma then [Char.ofNat (if endsWord before r then 0x3C2 else 0x3C3)]
     else small c) ++ lowerAfter (c :: before) r

end Case

namespace Text

def upper (t : Text) : Text := t.flatMap Case.capital

def lower (t : Text) : Text := Case.lowerAfter [] t

end Text

/-- What happens to the letters of names and types. -/
inductive CaseMode
  | mixed | upper | lower
  deriving DecidableEq, Repr

namespace CaseMode

def convert : CaseMode → Text → Text
  | .mixed, t => t
  | .upper, t => t.upper
  | .lower, t => t.lower

def word : CaseMode → Text
  | .mixed => "mixed"
  | .upper => "upper"
  | .lower => "lower"

def all : List CaseMode := [.mixed, .upper, .lower]

def ofWord? (t : Text) : Option CaseMode := all.find? fun m => m.word == t

def notAMode (shown : Text) : Text := shown ++ " is not a valid CaseMode"

end CaseMode
end Copybook
