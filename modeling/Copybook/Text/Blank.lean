import Copybook.Text.Basic

/-!
Blanks are the characters of Unicode that separate words: the controls that move the cursor, the
four information separators, and every kind of space. Words are what stands between blanks. -/
namespace Copybook

def isBlank (c : Char) : Bool :=
  let n := c.toNat
  (0x09 ≤ n && n ≤ 0x0D) || (0x1C ≤ n && n ≤ 0x20) || n == 0x85 || n == 0xA0 || n == 0x1680 ||
    (0x2000 ≤ n && n ≤ 0x200A) || n == 0x2028 || n == 0x2029 || n == 0x202F || n == 0x205F ||
    n == 0x3000

namespace Text

def trimStart (t : Text) : Text := t.dropWhile isBlank

def trimEnd (t : Text) : Text := dropEndWhile isBlank t

def trim (t : Text) : Text := trimEnd (trimStart t)

def consWord (word : Text) (words : List Text) : List Text :=
  if word.isEmpty then words else word :: words

/-- The characters up to the first blank, and the words after it. -/
def splitWords : Text → Text × List Text
  | [] => ([], [])
  | c :: r =>
    if isBlank c then ([], consWord (splitWords r).1 (splitWords r).2)
    else (c :: (splitWords r).1, (splitWords r).2)

def words (t : Text) : List Text := consWord (splitWords t).1 (splitWords t).2

@[simp] theorem words_nil : words [] = [] := rfl

theorem words_blank_cons {c : Char} (h : isBlank c = true) (t : Text) : words (c :: t) = words t := by
  simp [words, splitWords, h, consWord]

end Text
end Copybook
