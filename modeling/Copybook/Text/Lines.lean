import Copybook.Text.Basic

/-!
Line ends. A text file ends its lines with a line feed, a carriage return, or both in this order,
and all three read as a line feed. The wider set of breaks also holds the vertical tab, the form
feed, three information separators and the line and paragraph separators of Unicode. -/
namespace Copybook
namespace Text

/-- Every line end becomes a line feed; `afterReturn` says that a carriage return came just before. -/
def unifyAfter : Bool → Text → Text
  | _, [] => []
  | afterReturn, c :: r =>
    if c = '\r' then '\n' :: unifyAfter true r
    else if c = '\n' && afterReturn then unifyAfter false r
    else c :: unifyAfter false r

def unifyLineEnds (t : Text) : Text := unifyAfter false t

/-- The lines of a text whose line ends are line feeds, each with its line feed. -/
def lines : Text → List Text
  | [] => []
  | c :: r =>
    if c = '\n' then [c] :: lines r
    else match lines r with
      | [] => [[c]]
      | line :: rest => (c :: line) :: rest

def isBreak (c : Char) : Bool :=
  let n := c.toNat
  (0x0A ≤ n && n ≤ 0x0D) || (0x1C ≤ n && n ≤ 0x1E) || n == 0x85 || n == 0x2028 || n == 0x2029

/-- The lines of a text without their breaks; `afterReturn` says that the break just before was a
carriage return, so that a line feed belongs to it. -/
def breakLinesAfter : Bool → Text → List Text
  | _, [] => []
  | afterReturn, c :: r =>
    if c = '\n' && afterReturn then breakLinesAfter false r
    else if isBreak c then [] :: breakLinesAfter (c = '\r') r
    else match breakLinesAfter false r with
      | [] => [[c]]
      | line :: rest => (c :: line) :: rest

def breakLines (t : Text) : List Text := breakLinesAfter false t

end Text
end Copybook
