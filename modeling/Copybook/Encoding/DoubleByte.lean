import Copybook.Encoding.Charset
import Copybook.Encoding.Step

/-!
Encodings in which bytes below 80 hexadecimal are ASCII and most others begin a character of two
bytes. -/
namespace Copybook
namespace Encoding

variable {σ : Type}

def illegal (length : Nat) : Step σ := .broken length "illegal multibyte sequence"

def incomplete : Step σ := .short "incomplete multibyte sequence"

def stepTo (length : Nat) : Option Char → Step σ
  | some c => .char c length
  | none => illegal 1

def doubleByte (find : Nat → Nat → Option Char) : List Nat → Step σ
  | [] => incomplete
  | [a] => if a < 0x80 then .char (Char.ofNat a) 1 else incomplete
  | a :: b :: _ => if a < 0x80 then .char (Char.ofNat a) 1 else stepTo 2 (find a b)

/-- The character of a set whose rows and places are counted from A1. -/
def highChar? (set : Charset) (a b : Nat) : Option Char := set.char? (a - 0x80) (b - 0x80)

end Encoding
end Copybook
