/-!
Character sets whose codes have two parts, written as rows: characters whose codes share the first
part and follow one another in the second. A blank in a row stands for a code without a character. -/
namespace Copybook

structure Charset.Row where
  first : Nat
  second : Nat
  chars : String

abbrev Charset := List Charset.Row

namespace Charset

def Row.char? (r : Row) (second : Nat) : Option Char :=
  if second < r.second then none
  else r.chars.toList[second - r.second]?.filter fun c => c != ' '

def char? (set : Charset) (first second : Nat) : Option Char :=
  set.findSome? fun r => if r.first = first then r.char? second else none

def chars (set : Charset) : List Char :=
  set.flatMap fun r => r.chars.toList.filter fun c => c != ' '

/-- The numbers from `n` on, `count` of them, without those of an ascending list. -/
def gaps : Nat → Nat → List Nat → List Nat
  | _, 0, _ => []
  | n, count + 1, [] => n :: gaps (n + 1) count []
  | n, count + 1, taken :: rest =>
    if taken = n then gaps (n + 1) count rest else n :: gaps (n + 1) count (taken :: rest)

/-- The characters from `first` to `last` that a set lacks, in code order. -/
def lacking (set : Charset) (first last : Nat) : Array Char :=
  let taken := (set.chars.map Char.toNat).filter fun n => first ≤ n && n ≤ last
  ((gaps first (last + 1 - first) taken.mergeSort).map Char.ofNat).toArray

end Charset
end Copybook
