import Copybook.Picture

/-!
The families of expanded pictures. Numeric pictures have digits, markers and at most a sign at each
end; alphabetic ones only A; alphanumeric ones A, X and 9 with an X; edited ones also insertion
symbols, of which one stands beside a letter when nines are left out. -/
namespace Copybook
namespace Picture

def isSign (c : Char) : Bool := c = 'S' || c = '+' || c = '-'

def isFigure (c : Char) : Bool := c = '0' || c = 'Z' || c = '9' || c = '.' || c = 'V'

def isLetter (c : Char) : Bool := c = 'A' || c = 'X'

def isInsertion (c : Char) : Bool := c = 'B' || c = '0' || c = '/'

def dropLeadingSign : Text → Text
  | [] => []
  | c :: r => if isSign c then r else c :: r

/-- Figures up to the end, or up to one last plus or minus. -/
def endsInFigures : Text → Bool
  | [] => true
  | c :: r => if isFigure c then endsInFigures r else (c = '+' || c = '-') && r.isEmpty

def beginsWithFigure : Text → Bool
  | [] => false
  | c :: _ => isFigure c

/-- Numeric or numeric edited: an optional sign, figures, and an optional plus or minus. -/
def isNumericPlus (expanded : Text) : Bool :=
  let unsigned := dropLeadingSign expanded.upper
  beginsWithFigure unsigned && endsInFigures unsigned

def isAlphabetic (expanded : Text) : Bool :=
  let symbols := expanded.upper
  !symbols.isEmpty && symbols.all fun c => c = 'A'

def isAlphanumeric (expanded : Text) : Bool :=
  let symbols := expanded.upper
  symbols.all (fun c => isLetter c || c = '9') && symbols.contains 'X'

/-- Whether a letter and an insertion symbol stand side by side, nines left out; `last` tells
whether the last symbol that was no nine was a letter. -/
def meets : Option Bool → Text → Bool
  | _, [] => false
  | last, c :: r =>
    if c = '9' then meets last r
    else last == some (!isLetter c) || meets (some (isLetter c)) r

def isAlphanumericEdited (expanded : Text) : Bool :=
  let symbols := expanded.upper
  symbols.all (fun c => isLetter c || c = '9' || isInsertion c) && meets none symbols

def isAlphanumericPlus (expanded : Text) : Bool :=
  isAlphanumeric expanded || isAlphanumericEdited expanded

/-- Leaves out the sign in front, or if there is none the sign at the end. -/
def removeSign (expanded : Text) : Text :=
  match expanded with
  | [] => []
  | c :: r =>
    if capitalIn ['S', '+', '-'] c then r
    else match expanded.getLast? with
      | some last => if isSign last then expanded.dropLast else expanded
      | none => expanded

/-- The number of symbols before the decimal marker: a point, or if there is none a V. -/
def markerPosition (unsigned : Text) : Nat :=
  match unsigned.idxOf? '.' with
  | some position => position
  | none => (unsigned.upper.idxOf? 'V').getD unsigned.length

def isSigned? (expanded : Text) : Option Bool :=
  if isNumericPlus expanded then some (expanded.upper.any isSign) else none

def integerDigits? (expanded : Text) : Option Nat :=
  if isNumericPlus expanded then some (markerPosition (removeSign expanded)) else none

def fractionDigits? (expanded : Text) : Option Nat :=
  if isNumericPlus expanded then
    let unsigned := removeSign expanded
    some (unsigned.length - markerPosition unsigned - 1)
  else none

def notNumeric (expanded : Text) : Text := "'" ++ expanded ++ "' is not a numeric picture"

/-- The number of characters that a picture's data fills, insertion symbols left out. -/
def characterCount (expanded : Text) : Nat :=
  (expanded.filter fun c => !capitalIn ['B', '0', '/'] c).length

end Picture
end Copybook
