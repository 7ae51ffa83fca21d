import Copybook.Encoding.Charset.KsX1001
import Copybook.Encoding.DoubleByte

/-!
Encodings of Korean. A syllable is a leading consonant, a vowel and perhaps a trailing consonant;
syllables without a code of their own are spelled by eight bytes, or have codes beside the basic set,
or are composed of three letters of five bits each. -/
namespace Copybook
namespace Encoding

variable {σ : Type}

/-- The syllable of a leading consonant, a vowel and a trailing consonant, 0 for none. -/
def syllable (leading vowel trailing : Nat) : Char :=
  Char.ofNat (0xAC00 + leading * 588 + vowel * 28 + trailing)

def leadingOf : List (Option Nat) :=
  [some 0, some 1, none, some 2, none, none, some 3, some 4, some 5, none, none, none, none, none,
   none, none, some 6, some 7, some 8, none, some 9, some 10, some 11, some 12, some 13, some 14,
   some 15, some 16, some 17, some 18]

def trailingOf : List (Option Nat) :=
  [some 1, some 2, some 3, some 4, some 5, some 6, some 7, none, some 8, some 9, some 10, some 11,
   some 12, some 13, some 14, some 15, some 16, some 17, none, some 18, some 19, some 20, some 21,
   some 22, none, some 23, some 24, some 25, some 26, some 27]

def spellingMark : Nat := 0xA4

def spellingFiller : Nat := 0xD4

def spelled? (leading vowel trailing : Nat) : Option Char := do
  let l ← (← if 0xA1 ≤ leading then leadingOf[leading - 0xA1]? else none)
  let v ← if 0xBF ≤ vowel && vowel ≤ 0xD3 then some (vowel - 0xBF) else none
  let t ←
    if trailing = spellingFiller then some 0
    else (← if 0xA1 ≤ trailing then trailingOf[trailing - 0xA1]? else none)
  return syllable l v t

def eucKr : List Nat → Step σ
  | [] => incomplete
  | [a] => if a < 0x80 then .char (Char.ofNat a) 1 else incomplete
  | a :: b :: r =>
    if a < 0x80 then .char (Char.ofNat a) 1
    else if a = spellingMark && b = spellingFiller then
      match r with
      | m :: leading :: m' :: vowel :: m'' :: trailing :: _ =>
        if m = spellingMark && m' = spellingMark && m'' = spellingMark then
          stepTo 8 (spelled? leading vowel trailing)
        else illegal 1
      | _ => incomplete
    else stepTo 2 (highChar? Charset.ksX1001 a b)

def rareSyllables : Array Char := Charset.ksX1001.lacking 0xAC00 0xD7A3

/-- The place in a row of 178 codes: two alphabets, then all from 81 on. -/
def syllablePlace? (b : Nat) : Option Nat :=
  if 0x41 ≤ b && b ≤ 0x5A then some (b - 0x41)
  else if 0x61 ≤ b && b ≤ 0x7A then some (b - 0x61 + 26)
  else if 0x81 ≤ b && b ≤ 0xFE then some (b - 0x81 + 52)
  else none

/-- A syllable that the basic set lacks: 32 full rows of them, then 84 in each row. -/
def rareSyllable? (a b : Nat) : Option Char := do
  let place ← syllablePlace? b
  if a < 0x81 then none
  else if a ≤ 0xA0 then rareSyllables[(a - 0x81) * 178 + place]?
  else if b ≤ 0xA0 then rareSyllables[32 * 178 + (a - 0xA1) * 84 + place]?
  else none

def cp949 : List Nat → Step σ :=
  doubleByte fun a b => highChar? Charset.ksX1001 a b <|> rareSyllable? a b

/-! The composed encoding: in each group of five bits 0 stands for no letter. -/

inductive Letter
  | blank
  | letter (n : Nat)

def composedLeading? (n : Nat) : Option Letter :=
  if n = 1 then some .blank
  else if 2 ≤ n && n ≤ 20 then some (.letter (n - 2))
  else none

def composedVowel? (n : Nat) : Option Letter :=
  if n = 2 then some .blank
  else if 3 ≤ n && n ≤ 7 then some (.letter (n - 3))
  else if 10 ≤ n && n ≤ 15 then some (.letter (n - 5))
  else if 18 ≤ n && n ≤ 23 then some (.letter (n - 7))
  else if 26 ≤ n && n ≤ 29 then some (.letter (n - 9))
  else none

def composedTrailing? (n : Nat) : Option Letter :=
  if n = 1 then some .blank
  else if 2 ≤ n && n ≤ 17 then some (.letter (n - 1))
  else if 19 ≤ n && n ≤ 29 then some (.letter (n - 2))
  else none

def consonant? (places : List (Option Nat)) (n : Nat) : Option Char :=
  (places.findIdx? fun place => place == some n).map fun i => Char.ofNat (0x3131 + i)

/-- A syllable, or a letter that stands alone. -/
def composed? (bits : Nat) : Option Char := do
  match ← composedLeading? (bits / 1024 % 32), ← composedVowel? (bits / 32 % 32),
      ← composedTrailing? (bits % 32) with
  | .blank, .blank, .blank => some '\u3000'
  | .letter l, .blank, .blank => consonant? leadingOf l
  | .blank, .letter v, .blank => some (Char.ofNat (0x314F + v))
  | .blank, .blank, .letter t => consonant? trailingOf t
  | .letter l, .letter v, .blank => some (syllable l v 0)
  | .letter l, .letter v, .letter t => some (syllable l v t)
  | _, _, _ => none

/-- A character of the basic set other than a syllable: two rows of the set make one row of codes. -/
def pairedRows? (a b : Nat) : Option Char :=
  if a < 0xD9 || a = 0xDF || 0xF9 < a || b < 0x31 || (0x80 ≤ b && b < 0x91) || b % 0x80 = 0x7F ||
      (a = 0xDA && 0xA1 ≤ b && b ≤ 0xD3) then none
  else
    let row := if a < 0xE0 then 2 * (a - 0xD9) else 2 * a - 0x197
    let place := if b < 0x91 then b - 0x31 else b - 0x43
    Charset.ksX1001.char? (0x21 + row + place / 94) (0x21 + place % 94)

def johab : List Nat → Step σ :=
  doubleByte fun a b => if a < 0xD8 then composed? (a * 256 + b) else pairedRows? a b

end Encoding
end Copybook
