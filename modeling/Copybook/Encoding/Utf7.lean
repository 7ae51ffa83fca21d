import Copybook.Encoding.Step

/-!
UTF-7: ASCII in which everything else is written as UTF-16 in the digits of base 64, between a plus
sign and the first character that is no digit. -/
namespace Copybook
namespace Encoding

variable {σ : Type}

def base64Digit? (b : Nat) : Option Nat :=
  if 0x41 ≤ b && b ≤ 0x5A then some (b - 0x41)
  else if 0x61 ≤ b && b ≤ 0x7A then some (b - 0x61 + 26)
  else if 0x30 ≤ b && b ≤ 0x39 then some (b - 0x30 + 52)
  else if b = 0x2B then some 62
  else if b = 0x2F then some 63
  else none

/-- A run of digits: the bits that make no full unit yet, a unit that waits for its other half, and
the characters so far, last one first. -/
structure Base64 where
  bits : Nat := 0
  value : Nat := 0
  half : Option Nat := none
  reversed : Text := []

namespace Base64

def loneHalf : Char := Char.ofNat 0xFFFD

def flushHalf (run : Base64) : Base64 :=
  match run.half with
  | some _ => { run with half := none, reversed := loneHalf :: run.reversed }
  | none => run

def unit (run : Base64) (u : Nat) : Base64 :=
  match run.half with
  | some high =>
    if 0xDC00 ≤ u && u < 0xE000 then
      let c := Char.ofNat (0x10000 + (high - 0xD800) * 0x400 + (u - 0xDC00))
      { run with half := none, reversed := c :: run.reversed }
    else
      let run := run.flushHalf
      if 0xD800 ≤ u && u < 0xDC00 then { run with half := some u }
      else { run with reversed := Char.ofNat u :: run.reversed }
  | none =>
    if 0xD800 ≤ u && u < 0xDC00 then { run with half := some u }
    else if 0xDC00 ≤ u && u < 0xE000 then { run with reversed := loneHalf :: run.reversed }
    else { run with reversed := Char.ofNat u :: run.reversed }

def digit (run : Base64) (d : Nat) : Base64 :=
  let bits := run.bits + 6
  let value := run.value * 64 + d
  if bits < 16 then { run with bits := bits, value := value }
  else
    let rest := Nat.pow 2 (bits - 16)
    { run with bits := bits - 16, value := value % rest }.unit (value / rest)

def text (run : Base64) : Text := run.reversed.reverse

/-- What may end a run, after `length` bytes of it: `b` does, which is absorbed if it is a dash. -/
def close (run : Base64) (length b : Nat) : Step σ :=
  if 6 ≤ run.bits then .broken (length + 1) "partial character in shift sequence"
  else if run.value != 0 then .broken (length + 1) "non-zero padding bits in shift sequence"
  else .text (if b < 0x80 then run.flushHalf else run).text (if b = 0x2D then length + 1 else length)

def stepRun (run : Base64) (length : Nat) : List Nat → Step σ
  | [] =>
    if run.half.isSome || 6 ≤ run.bits || run.value != 0 then .short "unterminated shift sequence"
    else .unended run.text
  | b :: r =>
    match base64Digit? b with
    | some d => (run.digit d).stepRun (length + 1) r
    | none => run.close length b

end Base64

def utf7 : List Nat → Step σ
  | [] => endOfData
  | a :: r =>
    if a = 0x2B then
      match r with
      | [] => .unended []
      | b :: _ =>
        if b = 0x2D then .char '+' 2
        else if (base64Digit? b).isNone then .broken 2 "ill-formed sequence"
        else ({} : Base64).stepRun 1 r
    else if a < 0x80 then .char (Char.ofNat a) 1
    else .broken 1 "unexpected special character"

end Encoding
end Copybook
