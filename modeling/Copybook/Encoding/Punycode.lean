import Copybook.Text.Basic

/-!
Punycode: the ASCII characters of a text, and behind the last dash all others, as differences between
their places written in base 36 with a threshold for the last digit that adapts itself. -/
namespace Copybook
namespace Encoding
namespace Punycode

inductive Fault
  | notADigit (c : Char)
  | incomplete
  | tooLarge (code : Nat)
  deriving DecidableEq, Repr

def Fault.message : Fault → Text
  | .notADigit c => "Invalid extended code point '" ++ [c] ++ ['\'']
  | .incomplete => "incomplete punicode string"
  | .tooLarge code => "Invalid character U+" ++ Nat.toDigits 16 code

def digit? (c : Char) : Option Nat :=
  if c.isAlpha then some (c.toUpper.toNat - 0x41)
  else if c.isDigit then some (c.toNat - 0x30 + 26)
  else none

/-- How often a difference is to be divided, times 36, and what remains of it. -/
def shrink (delta : Nat) : Nat × Nat :=
  if _ : 455 < delta then
    let (k, rest) := shrink (delta / 35)
    (k + 36, rest)
  else (0, delta)
termination_by delta
decreasing_by exact Nat.div_lt_self (by omega) (by omega)

def adapt (delta : Nat) (first : Bool) (count : Nat) : Nat :=
  let delta := if first then delta / 700 else delta / 2
  let (k, rest) := shrink (delta + delta / count)
  k + 36 * rest / (rest + 38)

/-- The threshold at a place of a number: smaller digits end it. -/
def threshold (place bias : Nat) : Nat := min 26 (max 1 (36 * (place + 1) - bias))

/-- The characters so far, the place and the code of the last insertion, and the difference that is
being read. -/
structure State where
  text : Text
  inserted : Option Nat := none
  code : Nat := 0x80
  bias : Nat := 72
  delta : Nat := 0
  weight : Nat := 1
  digits : Nat := 0

def State.insert (s : State) (delta : Nat) : Except Fault State :=
  let places := s.text.length + 1
  let next := (match s.inserted with
    | some place => place + 1
    | none => 0) + delta
  let code := s.code + next / places
  let place := next % places
  if 0x10FFFF < code then .error (.tooLarge code)
  else .ok
    { text := s.text.take place ++ Char.ofNat code :: s.text.drop place, inserted := some place,
      code := code, bias := adapt delta s.inserted.isNone places }

def State.takeUp (s : State) : Text → Except Fault Text
  | [] => if s.digits = 0 then .ok s.text else .error .incomplete
  | c :: r =>
    match digit? c with
    | none => .error (.notADigit c.toUpper)
    | some d =>
      let delta := s.delta + d * s.weight
      let t := threshold s.digits s.bias
      if d < t then do (← s.insert delta).takeUp r
      else
        { s with delta := delta, weight := s.weight * (36 - t), digits := s.digits + 1 }.takeUp r

def parts (t : Text) : Text × Text :=
  if t.contains '-' then
    let back := t.reverse.takeWhile fun c => c != '-'
    (t.take (t.length - back.length - 1), back.reverse)
  else ([], t)

def decodeParts (front rest : Text) : Except Fault Text := ({ text := front } : State).takeUp rest

end Punycode
end Encoding
end Copybook
