import Copybook.Encoding.Step

/-!
Encodings in which a backslash introduces characters by their codes, and all other bytes stand for
the characters with the same codes. Two escapes are not followed: the code of a lone surrogate, which
is no character, gives the null character, and no character is known by its name. -/
namespace Copybook
namespace Encoding

variable {σ : Type}

def backslash : Nat := 0x5C

def hexDigit? (b : Nat) : Option Nat :=
  if 0x30 ≤ b && b ≤ 0x39 then some (b - 0x30)
  else if 0x41 ≤ b && b ≤ 0x46 then some (b - 0x41 + 10)
  else if 0x61 ≤ b && b ≤ 0x66 then some (b - 0x61 + 10)
  else none

/-- The step over a code of `count` more digits, of which `length` bytes and the number `n` have been
taken up. The code of a lone surrogate gives the null character. -/
def stepHex (truncated beyond : String) (n length : Nat) : Nat → List Nat → Step σ
  | 0, _ => if n < 0x110000 then .char (Char.ofNat n) length else .broken length beyond
  | _, [] => .short truncated
  | count + 1, b :: r =>
    match hexDigit? b with
    | some d => stepHex truncated beyond (n * 16 + d) (length + 1) count r
    | none => .broken length truncated

def octalDigit? (b : Nat) : Option Nat := if 0x30 ≤ b && b ≤ 0x37 then some (b - 0x30) else none

/-- The step over an octal code of at most `count` more digits. -/
def stepOctal (n length : Nat) : Nat → List Nat → Step σ
  | 0, _ | _, [] => .char (Char.ofNat n) length
  | count + 1, b :: r =>
    match octalDigit? b with
    | some d => stepOctal (n * 8 + d) (length + 1) count r
    | none => .char (Char.ofNat n) length

def shortEscapes : List (Nat × Text) :=
  [(0x0A, []), (0x5C, ['\\']), (0x27, ['\'']), (0x22, ['"']), (0x62, ['\x08']), (0x66, ['\x0c']),
   (0x74, ['\t']), (0x6E, ['\n']), (0x72, ['\r']), (0x76, ['\x0b']), (0x61, ['\x07'])]

/-- The step over a character that is named between braces. The table of names is left out, so every
name is unknown. -/
def stepName : List Nat → Step σ
  | [] => .short "malformed \\N character escape"
  | b :: r =>
    if b != 0x7B then .broken 2 "malformed \\N character escape"
    else
      let name := r.takeWhile fun b => b != 0x7D
      if name.length = r.length then .short "malformed \\N character escape"
      else if name.isEmpty then .broken 3 "malformed \\N character escape"
      else .broken (name.length + 4) "unknown Unicode character name"

/-- The encoding that knows all escapes but lone surrogates and names. -/
def escapes : List Nat → Step σ
  | [] => endOfData
  | a :: r =>
    if a != backslash then .char (Char.ofNat a) 1
    else match r with
      | [] => .short "\\ at end of string"
      | b :: r =>
        match shortEscapes.lookup b with
        | some t => .text t 2
        | none =>
          match octalDigit? b with
          | some d => stepOctal d 2 2 r
          | none =>
            if b = 0x78 then stepHex "truncated \\xXX escape" "" 0 2 2 r
            else if b = 0x75 then stepHex "truncated \\uXXXX escape" "" 0 2 4 r
            else if b = 0x55 then
              stepHex "truncated \\UXXXXXXXX escape" "illegal Unicode character" 0 2 8 r
            else if b = 0x4E then stepName r
            else .text ['\\', Char.ofNat b] 2

/-- The encoding that knows codes of four and of eight digits only. -/
def rawEscapes : List Nat → Step σ
  | [] => endOfData
  | a :: r =>
    if a != backslash then .char (Char.ofNat a) 1
    else match r with
      | [] => .unended ['\\']
      | b :: r =>
        if b = 0x75 then stepHex "truncated \\uXXXX escape" "" 0 2 4 r
        else if b = 0x55 then
          stepHex "truncated \\UXXXXXXXX escape" "\\Uxxxxxxxx out of range" 0 2 8 r
        else .text ['\\', Char.ofNat b] 2

end Encoding
end Copybook
