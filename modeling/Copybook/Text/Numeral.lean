import Copybook.Text.Blank
import Copybook.Text.Digit
import Copybook.Text.Quoted

/-!
Whole numbers in decimal. A numeral may have blanks around it, a sign, digits of any script, and
single underscores between digits. Numbers of more than 4300 digits are neither read nor written. -/
namespace Copybook
namespace Numeral

def digitLimit : Nat := 4300

inductive Problem
  /-- The text is not a numeral. -/
  | malformed (text : Text)
  /-- The numeral has this many digits, leading zeros included. -/
  | tooLong (digits : Nat)
  /-- The number is too long to be written. -/
  | tooLongToWrite
  deriving DecidableEq, Repr

def Problem.message : Problem → Text
  | .malformed text =>
    "invalid literal for int() with base 10: " ++ (Text.quoted text).take 200
  | .tooLong digits =>
    "Exceeds the limit (4300 digits) for integer string conversion: value has " ++
      Text.ofNat digits ++ " digits; use sys.set_int_max_str_digits() to increase the limit"
  | .tooLongToWrite =>
    "Exceeds the limit (4300 digits) for integer string conversion; " ++
      "use sys.set_int_max_str_digits() to increase the limit"

/-- Blanks that may surround a numeral: all but the information separators. -/
def isMargin (c : Char) : Bool := isBlank c && !(0x1C ≤ c.toNat && c.toNat ≤ 0x1F)

def sign : Text → Bool × Text
  | '-' :: r => (true, r)
  | '+' :: r => (false, r)
  | r => (false, r)

/-- A run of digits and underscores: whether each underscore stood between two digits, the number
of digits, their value, and what follows the run. -/
structure Run where
  sound : Bool
  digits : Nat
  value : Nat
  rest : Text

/-- Reads on from a run that has `digits` digits worth `value`; `joined` says that the last
character was an underscore. A second underscore in a row ends the run. -/
def run (joined : Bool) (digits value : Nat) : Text → Run
  | [] => ⟨!joined, digits, value, []⟩
  | c :: r =>
    match Digit.value? c with
    | some d => run false (digits + 1) (10 * value + d) r
    | none =>
      if c = '_' && !joined then run true digits value r
      else ⟨!joined, digits, value, c :: r⟩

def read (t : Text) : Except Problem Int :=
  let (negative, unsigned) := sign (t.dropWhile isMargin)
  let number := run true 0 0 unsigned
  if !number.sound then .error (.malformed t)
  else if digitLimit < number.digits then .error (.tooLong number.digits)
  else if number.rest.all isMargin then
    .ok (if negative then -(number.value : Int) else number.value)
  else .error (.malformed t)

def write (n : Int) : Except Problem Text :=
  let t := Text.ofInt n
  if digitLimit < (Text.ofNat n.natAbs).length then .error .tooLongToWrite else .ok t

example : read "-1_0" = .ok (-10) := rfl
example : read "1__0" = .error (.malformed "1__0") := rfl

end Numeral
end Copybook
