/-!
Text is a list of characters, so that every rule about it can be stated by recursion on the list.
Here are the searches and cuts that the rest of the library needs. -/
namespace Copybook

/-- Characters are Unicode scalar values. A lone half of a surrogate pair is none, so that no text holds
one; where an escape names it, another character stands in for it. -/
abbrev Text := List Char

instance : Coe String Text := ⟨String.toList⟩

namespace Text

/-- The text before and after the first place where `mark` stands. -/
def breakOn (mark : Text) : Text → Option (Text × Text)
  | [] => if mark.isEmpty then some ([], []) else none
  | c :: r =>
    if mark.isPrefixOf (c :: r) then some ([], (c :: r).drop mark.length)
    else (breakOn mark r).map fun (before, after) => (c :: before, after)

/-- Replaces from left to right, after passing over `skip` characters that an earlier
occurrence has used up. -/
def replaceFrom (old new : Text) : Nat → Text → Text
  | _, [] => []
  | skip + 1, _ :: r => replaceFrom old new skip r
  | 0, c :: r =>
    if old.isPrefixOf (c :: r) then new ++ replaceFrom old new (old.length - 1) r
    else c :: replaceFrom old new 0 r

/-- Puts `new` in the place of every occurrence of a nonempty `old`. -/
def replaceAll (old new : Text) (t : Text) : Text := replaceFrom old new 0 t

/-- The parts between single characters `mark`; one part more than there are marks. -/
def splitOn (mark : Char) : Text → List Text
  | [] => [[]]
  | c :: r =>
    if c = mark then [] :: splitOn mark r
    else match splitOn mark r with
      | [] => [[c]]
      | part :: parts => (c :: part) :: parts

def join (separator : Text) : List Text → Text
  | [] => []
  | [part] => part
  | part :: next :: parts => part ++ separator ++ join separator (next :: parts)

def dropEndWhile (p : Char → Bool) (t : Text) : Text := (t.reverse.dropWhile p).reverse

def padLeft (fill : Char) (width : Nat) (t : Text) : Text :=
  List.replicate (width - t.length) fill ++ t

def padRight (width : Nat) (t : Text) : Text := t ++ List.replicate (width - t.length) ' '

def ofNat (n : Nat) : Text := Nat.toDigits 10 n

def ofInt : Int → Text
  | .ofNat n => ofNat n
  | .negSucc n => '-' :: ofNat (n + 1)

def hex (width n : Nat) : Text := padLeft '0' width (Nat.toDigits 16 n)

def repeated (n : Nat) (t : Text) : Text := (List.replicate n t).flatten

end Text
end Copybook
