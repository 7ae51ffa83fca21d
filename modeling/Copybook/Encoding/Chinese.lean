import Copybook.Encoding.Charset.Big5
import Copybook.Encoding.Charset.Gb2312
import Copybook.Encoding.Charset.Gbk
import Copybook.Encoding.Charset.Hkscs
import Copybook.Encoding.DoubleByte

/-!
Encodings of Chinese. The extended set fills the places around the basic set with the ideographs that
the basic set lacks, and the full set reaches all other characters by codes of four bytes. -/
namespace Copybook
namespace Encoding

variable {σ : Type}

def gb2312 : List Nat → Step σ := doubleByte (highChar? Charset.gb2312)

def rareIdeographs : Array Char := Charset.gb2312.lacking 0x4E00 0x9FA5

/-- The place in a row of 190 codes, which leave out 7F. -/
def placeInRow (b : Nat) : Nat := if b < 0x7F then b - 0x40 else b - 0x41

def isPlaceInRow (b : Nat) : Bool := 0x40 ≤ b && b ≤ 0xFE && b != 0x7F

/-- An ideograph that the basic set lacks: 32 full rows of them, then 96 in each row from AA on. -/
def rareIdeograph? (a b : Nat) : Option Char :=
  if !isPlaceInRow b || a < 0x81 then none
  else if a ≤ 0xA0 then rareIdeographs[(a - 0x81) * 190 + placeInRow b]?
  else if 0xAA ≤ a && b ≤ 0xA0 then rareIdeographs[32 * 190 + (a - 0xAA) * 96 + placeInRow b]?
  else none

def gbkChar? (a b : Nat) : Option Char :=
  Charset.gbk.char? a b <|> highChar? Charset.gb2312 a b <|> rareIdeograph? a b

def gbk : List Nat → Step σ := doubleByte gbkChar?

/-- A character of the private area, which fills three blocks of codes. -/
def privateChar? (a b : Nat) : Option Char :=
  if !isPlaceInRow b then none
  else if 0xAA ≤ a && a ≤ 0xAF && 0xA1 ≤ b then
    some (Char.ofNat (0xE000 + (a - 0xAA) * 94 + (b - 0xA1)))
  else if 0xF8 ≤ a && a ≤ 0xFE && 0xA1 ≤ b then
    some (Char.ofNat (0xE234 + (a - 0xF8) * 94 + (b - 0xA1)))
  else if 0xA1 ≤ a && a ≤ 0xA7 && b ≤ 0xA0 then
    some (Char.ofNat (0xE4C6 + (a - 0xA1) * 96 + placeInRow b))
  else none

def atPlace? (place : Nat) : List (Nat × Nat) → Option Nat
  | [] => none
  | (first, count) :: rest =>
    if place < count then some (first + place) else atPlace? (place - count) rest

def isDecimalByte (b : Nat) : Bool := 0x30 ≤ b && b ≤ 0x39

def isLeadByte (b : Nat) : Bool := 0x81 ≤ b && b ≤ 0xFE

/-- The character of four bytes, which count in turn by 126 and by 10. -/
def fourByteChar? (a b c d : Nat) : Option Char :=
  if isLeadByte a && isDecimalByte b && isLeadByte c && isDecimalByte d then
    let place := (((a - 0x81) * 10 + (b - 0x30)) * 126 + (c - 0x81)) * 10 + (d - 0x30)
    if place < 50400 then (atPlace? place Charset.fourByteRuns).map Char.ofNat
    else
      let n := 0x10000 + (place - 189000)
      if 189000 ≤ place && n ≤ 0x10FFFF then some (Char.ofNat n) else none
  else none

def gb18030 : List Nat → Step σ
  | [] => incomplete
  | a :: r =>
    if a < 0x80 then .char (Char.ofNat a) 1
    else match r with
      | [] => incomplete
      | b :: r =>
        if isDecimalByte b then
          match r with
          | c :: d :: _ => stepTo 4 (fourByteChar? a b c d)
          | _ => incomplete
        else stepTo 2 (gbkChar? a b <|> Charset.gb18030.char? a b <|> privateChar? a b)

def big5 : List Nat → Step σ := doubleByte Charset.big5.char?

def cp950 : List Nat → Step σ :=
  doubleByte fun a b => Charset.big5Vendor.char? a b <|> Charset.big5.char? a b

/-- Whether the supplementary set takes a code away from the basic one. -/
def isReassigned (a b : Nat) : Bool := (a == 0xC6 && 0xA1 ≤ b) || a == 0xC7 || a == 0xC8

/-- The codes of a letter with an accent above for which there is no single character. -/
def accentedLetter? (a b : Nat) : Option Text :=
  if a != 0x88 then none
  else match b with
    | 0x62 => some "Ê\u0304"
    | 0x64 => some "Ê\u030c"
    | 0xA3 => some "ê\u0304"
    | 0xA5 => some "ê\u030c"
    | _ => none

def big5hkscs : List Nat → Step σ
  | [] => incomplete
  | [a] => if a < 0x80 then .char (Char.ofNat a) 1 else incomplete
  | a :: b :: _ =>
    if a < 0x80 then .char (Char.ofNat a) 1
    else match accentedLetter? a b with
      | some t => .text t 2
      | none =>
        stepTo 2 ((if isReassigned a b then none else Charset.big5.char? a b) <|>
          Charset.hkscs.char? a b)

end Encoding
end Copybook
