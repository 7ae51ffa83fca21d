import Copybook.Text.Basic

/-!
Double precision numbers, read from decimals to the nearest double with ties to even, and written
with the fewest digits that read back as the same double. All arithmetic is on whole numbers. -/
namespace Copybook

inductive Binary64
  /-- The number `mantissa * 2 ^ exponent`, negated if `negative`. -/
  | finite (negative : Bool) (mantissa : Nat) (exponent : Int)
  | infinite (negative : Bool)
  | nan
  deriving DecidableEq, Repr

namespace Binary64

def leastExponent : Int := -1074

def greatestExponent : Int := 971

/-- The fraction `n / d * 2 ^ e` with a positive power moved above the line. -/
def scaled (n d : Nat) (e : Int) : Nat × Nat :=
  if e < 0 then (n, d * Nat.pow 2 (-e).toNat) else (n * Nat.pow 2 e.toNat, d)

/-- The whole number nearest to a fraction, the even one of two. -/
def roundDiv (n d : Nat) : Nat :=
  let q := n / d
  let twice := 2 * (n % d)
  if twice < d then q else if d < twice then q + 1 else if q % 2 = 0 then q else q + 1

/-- The exponent of the double nearest to `n / d`: the one that leaves 53 binary places. -/
def exponentFor (n d : Nat) : Int :=
  let e : Int := (Nat.log2 n : Int) - Nat.log2 d - 53
  let (a, b) := scaled n d (-e)
  max leastExponent (if a / b < Nat.pow 2 53 then e else e + 1)

def ofFraction (negative : Bool) (n d : Nat) : Binary64 :=
  let e := exponentFor n d
  let (a, b) := scaled n d (-e)
  let m := roundDiv a b
  let (m, e) := if m = Nat.pow 2 53 then (Nat.pow 2 52, e + 1) else (m, e)
  if greatestExponent < e then .infinite negative else .finite negative m e

def ofDecimal (negative : Bool) (digits : Nat) (exponent : Int) : Binary64 :=
  let places := (Nat.toDigits 10 digits).length + exponent
  if digits = 0 || places < -400 then .finite negative 0 leastExponent
  else if 400 < places then .infinite negative
  else if exponent < 0 then ofFraction negative digits (Nat.pow 10 (-exponent).toNat)
  else ofFraction negative (digits * Nat.pow 10 exponent.toNat) 1

/-- Whether a decimal on the grid `10 ^ k` reads back as `m * 2 ^ e`. -/
def readsBack (m : Nat) (e : Int) (decimal : Nat) (k : Int) : Bool :=
  ofDecimal false decimal k = .finite false m e

/-- The decimal of the grid `10 ^ k` nearest to `n / d` that reads back as `m * 2 ^ e`. -/
def onGrid (m : Nat) (e : Int) (n d : Nat) (k : Int) : Option Nat :=
  let (a, b) := if k < 0 then (n * Nat.pow 10 (-k).toNat, d) else (n, d * Nat.pow 10 k.toNat)
  let nearest := roundDiv a b
  let other := if a / b = nearest then nearest + 1 else a / b
  if readsBack m e nearest k then some nearest
  else if readsBack m e other k then some other
  else none

/-- The place of the decimal point counted from the first digit of `n / d`. -/
def pointPlace (n d : Nat) : Int := (Nat.toDigits 10 (n * Nat.pow 10 400 / d)).length - 400

/-- The digits and the exponent of the shortest decimal for a positive double, on the first of the
given grids that has one. -/
def shortestOn (m : Nat) (e : Int) (n d : Nat) (place : Int) : List Nat → Nat × Int
  | [] => (n, 0)
  | count :: more =>
    match onGrid m e n d (place - count) with
    | some decimal => (decimal, place - count)
    | none => shortestOn m e n d place more

def shortest (m : Nat) (e : Int) : Nat × Int :=
  let (n, d) := scaled m 1 e
  shortestOn m e n d (pointPlace n d) (List.range' 1 17)

/-- Decimals are positional when the point lies between 3 places before the first digit and 16 after
it; else they have an exponent with a sign and at least two digits. -/
def layOut (digits : Text) (point : Int) : Text :=
  if -4 < point && point ≤ 16 then
    if point ≤ 0 then "0." ++ List.replicate (-point).toNat '0' ++ digits
    else
      let whole := digits.take point.toNat
      let fraction := digits.drop point.toNat
      whole ++ List.replicate (point.toNat - whole.length) '0' ++ ['.'] ++
        (if fraction.isEmpty then ['0'] else fraction)
  else
    let exponent := point - 1
    digits.take 1 ++ (if digits.length > 1 then '.' :: digits.drop 1 else []) ++ ['e'] ++
      (if exponent < 0 then ['-'] else ['+']) ++
      Text.padLeft '0' 2 (Text.ofNat exponent.natAbs)

def write : Binary64 → Text
  | .nan => "nan"
  | .infinite negative => if negative then "-inf" else "inf"
  | .finite negative m e =>
    let sign : Text := if negative then ['-'] else []
    if m = 0 then sign ++ "0.0"
    else
      let (decimal, k) := shortest m e
      let all := Text.ofNat decimal
      sign ++ layOut (Text.dropEndWhile (fun c => c = '0') all) (all.length + k)

def toFraction? : Binary64 → Option (Int × Nat)
  | .finite negative m e =>
    let (n, d) := scaled m 1 e
    some (if negative then -(n : Int) else n, d)
  | _ => none

/-- Equality of values: zero has no sign, and what is not a number equals itself only. -/
def equals : Binary64 → Binary64 → Bool
  | .nan, .nan => true
  | .infinite a, .infinite b => a = b
  | x, y => match toFraction? x, toFraction? y with
    | some (n, d), some (n', d') => n * d' = n' * d
    | _, _ => false

def isZero : Binary64 → Bool
  | .finite _ m _ => m = 0
  | _ => false

end Binary64
end Copybook
