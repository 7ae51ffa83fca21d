import Copybook.Encoding.Charset.Cp932
import Copybook.Encoding.Charset.JisX0208
import Copybook.Encoding.Charset.JisX0212
import Copybook.Encoding.Charset.JisX0213
import Copybook.Encoding.DoubleByte

/-!
Encodings of Japanese. Shift JIS puts two rows of a set of 94 rows into one row of codes, between the
codes of the half-width letters; the extended Unix code marks everything outside the basic set by a
byte in front. -/
namespace Copybook
namespace Encoding

variable {σ : Type}

/-- The two editions of the extended set. -/
inductive Edition
  | first | second
  deriving DecidableEq, Repr

def stepToText (length : Nat) : Option Text → Step σ
  | some t => .text t length
  | none => illegal 1

def halfWidth? (a : Nat) : Option Char :=
  if 0xA1 ≤ a && a ≤ 0xDF then some (Char.ofNat (0xFEC0 + a)) else none

/-- The Japanese variant of ASCII, with the yen sign and an overline. -/
def romanChar (a : Nat) : Char :=
  if a = 0x5C then '¥' else if a = 0x7E then '‾' else Char.ofNat a

/-- The codes that the second edition adds to the first plane. -/
def addedCodes : List (Nat × Nat) :=
  [(0x2E, 0x21), (0x2F, 0x7E), (0x4F, 0x54), (0x4F, 0x7E), (0x74, 0x27), (0x7E, 0x7A),
   (0x7E, 0x7B), (0x7E, 0x7C), (0x7E, 0x7D), (0x7E, 0x7E)]

def isMissing (edition : Edition) (a b : Nat) : Bool :=
  edition = .first && addedCodes.contains (a, b)

/-- A code of the first plane; some stand for two characters. -/
def firstPlane? (a b : Nat) : Option Text :=
  match Charset.jisX0208.char? a b <|> Charset.jisX0213.char? a b with
  | some c => some [c]
  | none =>
    (Charset.jisX0213Pairs.find? fun (a', b', _) => a' = a && b' = b).map fun (_, _, pair) =>
      pair.toList

/-- A code of the second plane; one of them means another character in the first edition. -/
def secondPlane? (edition : Edition) (a b : Nat) : Option Char :=
  if edition = .first && a = 0x7D && b = 0x3B then some '鬝' else Charset.jisX0213Second.char? a b

/-! Shift JIS -/

def isShiftLead (a : Nat) : Bool := (0x81 ≤ a && a ≤ 0x9F) || (0xE0 ≤ a && a ≤ 0xFC)

/-- The row and the place of a code, both counted from 0. -/
def shiftPlace? (a b : Nat) : Option (Nat × Nat) :=
  if b < 0x40 || b = 0x7F || 0xFC < b then none
  else
    let row := 2 * (if a < 0xE0 then a - 0x81 else a - 0xC1)
    let place := if b < 0x7F then b - 0x40 else b - 0x41
    some (row + place / 94, place % 94)

def shiftJisChar? (a b : Nat) : Option Char := do
  let (row, place) ← shiftPlace? a b
  Charset.jisX0208.char? (row + 0x21) (place + 0x21)

def shiftJis : List Nat → Step σ
  | [] => incomplete
  | a :: r =>
    if a < 0x80 then .char (Char.ofNat a) 1
    else match halfWidth? a with
      | some c => .char c 1
      | none =>
        if isShiftLead a && a ≤ 0xEA then
          match r with
          | [] => incomplete
          | b :: _ => stepTo 2 (shiftJisChar? a b)
        else illegal 1

def ownChar? (a b : Nat) : Option Char := do
  if a < 0xF0 || 0xF9 < a then none
  else
    let (_, _) ← shiftPlace? a b
    return Char.ofNat (0xE000 + 188 * (a - 0xF0) + (if b < 0x7F then b - 0x40 else b - 0x41))

def vendorByte? (a : Nat) : Option Char :=
  if a = 0x80 then some (Char.ofNat 0x80)
  else if a = 0xA0 then some (Char.ofNat 0xF8F0)
  else if 0xFD ≤ a then some (Char.ofNat (0xF8F1 + (a - 0xFD)))
  else none

def cp932 : List Nat → Step σ
  | [] => incomplete
  | a :: r =>
    if a < 0x80 then .char (Char.ofNat a) 1
    else match halfWidth? a <|> vendorByte? a with
      | some c => .char c 1
      | none => match r with
        | [] => incomplete
        | b :: _ =>
          stepTo 2 (Charset.cp932.char? a b <|> ownChar? a b <|>
            if a ≤ 0xEA then shiftJisChar? a b else none)

/-- The rows of the second plane, in the order in which Shift JIS takes them up. -/
def secondPlaneRow (row : Nat) : Nat :=
  if 0x67 ≤ row then row + 7
  else if 0x63 ≤ row || row = 0x5F then row - 0x37
  else row - 0x3D

def shiftJisX0213 (edition : Edition) : List Nat → Step σ
  | [] => incomplete
  | a :: r =>
    if a < 0x80 then .char (romanChar a) 1
    else match halfWidth? a with
      | some c => .char c 1
      | none =>
        if isShiftLead a then
          match r with
          | [] => incomplete
          | b :: _ => match shiftPlace? a b with
            | none => illegal 1
            | some (row, place) =>
              if row < 94 then
                if isMissing edition (row + 0x21) (place + 0x21) then illegal 2
                else if row = 0 && place = 31 then .char '\\' 2
                else stepToText 2 (firstPlane? (row + 0x21) (place + 0x21))
              else stepTo 2 (secondPlane? edition (secondPlaneRow row) (place + 0x21))
        else illegal 1

/-! The extended Unix code -/

/-- The extended Unix code: what stands behind the mark for half-width letters, behind the mark for
three bytes, and without a mark. -/
def eucWith (basic : Nat → Nat → Step σ) (marked : Nat → Nat → Option Char) : List Nat → Step σ
  | [] => incomplete
  | a :: r =>
    if a < 0x80 then .char (Char.ofNat a) 1
    else if a = 0x8E then
      match r with
      | [] => incomplete
      | b :: _ => stepTo 2 (halfWidth? b)
    else if a = 0x8F then
      match r with
      | b :: c :: _ => stepTo 3 (marked (b - 0x80) (c - 0x80))
      | _ => incomplete
    else match r with
      | [] => incomplete
      | b :: _ => basic (a - 0x80) (b - 0x80)

def eucJp : List Nat → Step σ :=
  eucWith (fun a b => stepTo 2 (Charset.jisX0208.char? a b)) Charset.jisX0212.char?

def eucJisX0213 (edition : Edition) : List Nat → Step σ :=
  eucWith
    (fun a b =>
      if isMissing edition a b then illegal 2
      else if a = 0x22 && b = 0x32 then .char '～' 2
      else stepToText 2 (firstPlane? a b))
    (fun a b => secondPlane? edition a b <|> Charset.jisX0212.char? a b)

end Encoding
end Copybook
