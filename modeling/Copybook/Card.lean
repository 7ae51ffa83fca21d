import Copybook.Text.Blank

/-!
A copybook line in its column areas: columns 1 to 6 hold a sequence number, column 7 an indicator,
columns 8 to 72 code. What stands beyond column 72 is ignored. -/
namespace Copybook

structure Card where
  raw : Text
  number : Nat
  deriving DecidableEq, Repr

inductive CardKind
  | code | comment | page | continuation
  deriving DecidableEq, Repr

namespace Card

def sequence (c : Card) : Text := c.raw.take 6

def indicator (c : Card) : Option Char := c.raw[6]?

def code (c : Card) : Text := (c.raw.drop 7).take 65

def kind (c : Card) : CardKind :=
  match c.indicator with
  | some '*' => .comment
  | some '/' => .page
  | some '-' => .continuation
  | _ => .code

/-- A line too short for an indicator is a comment. -/
def isComment (c : Card) : Bool :=
  c.raw.length ≤ 6 || c.kind = .comment || c.kind = .page

def isContinuation (c : Card) : Bool := c.kind = .continuation

def isBlank (c : Card) : Bool := c.code.all Copybook.isBlank

/-- Comments, lines without a code column, and lines whose code is blank say nothing. -/
def isSkippable (c : Card) : Bool := c.isComment || c.raw.length < 8 || c.isBlank

end Card
end Copybook
