import Copybook.Encoding.Charset.Gb2312
import Copybook.Encoding.Charset.KsX1001
import Copybook.Encoding.CodePage
import Copybook.Encoding.Japanese

/-!
Encodings with shifts: escape sequences and control characters stand for no text and tell which set
the codes after them belong to. -/
namespace Copybook
namespace Encoding

inductive CodeSet
  | ascii | latin1 | greek | roman | katakana
  | gb2312 | ksX1001 | jisX0208 | jisX0208Old | jisX0212
  | jisX0213 (edition : Edition) | jisX0213Second
  deriving DecidableEq, Repr

namespace CodeSet

def width : CodeSet → Nat
  | .ascii | .latin1 | .greek | .roman | .katakana => 1
  | _ => 2

/-- The set that a final byte names among those of codes with one or two bytes. -/
def ofFinal? (double : Bool) (final : Nat) : Option CodeSet :=
  let named : List (Char × CodeSet) :=
    if double then
      [('@', .jisX0208Old), ('A', .gb2312), ('B', .jisX0208), ('C', .ksX1001), ('D', .jisX0212),
       ('O', .jisX0213 .first), ('P', .jisX0213Second), ('Q', .jisX0213 .second)]
    else [('A', .latin1), ('B', .ascii), ('F', .greek), ('I', .katakana), ('J', .roman)]
  named.lookup (Char.ofNat final)

/-- The text of a code; the two sets for letters of European languages serve single shifts only. -/
def text? (set : CodeSet) (a b : Nat) : Option Text :=
  match set with
  | .ascii => some [Char.ofNat a]
  | .latin1 | .greek => none
  | .roman => some [romanChar a]
  | .katakana => (halfWidth? (a + 0x80)).map fun c => [c]
  | .gb2312 => (Charset.gb2312.char? a b).map fun c => [c]
  | .ksX1001 => (Charset.ksX1001.char? a b).map fun c => [c]
  | .jisX0208 | .jisX0208Old => (Charset.jisX0208.char? a b).map fun c => [c]
  | .jisX0212 => (Charset.jisX0212.char? a b).map fun c => [c]
  | .jisX0213 edition => if isMissing edition a b then none else firstPlane? a b
  | .jisX0213Second => (Charset.jisX0213Second.char? a b).map fun c => [c]

def laterGreek : List Char := ['€', '₯', 'ͺ']

def greekChar? (b : Nat) : Option Char := do
  let c ← (← CodePage.find? "iso8859_7")[if b < 0x80 then b + 0x80 else b - 0x80]?
  if c = CodePage.unassigned || laterGreek.contains c then none else some c

def shiftedChar? (set : CodeSet) (b : Nat) : Option Char :=
  match set with
  | .latin1 => if b < 0x80 then some (Char.ofNat (b + 0x80)) else none
  | .greek => greekChar? b
  | .ascii => if b < 0x80 then some (Char.ofNat b) else none
  | _ => none

end CodeSet

/-- What the codes to come mean: the sets that have been designated, whether the second of them is
shifted in, and whether an escape sequence of another kind is passing through. -/
structure Shift where
  first : CodeSet := .ascii
  second : CodeSet := .ascii
  third : CodeSet := .ascii
  shifted : Bool := false
  passing : Bool := false
  deriving DecidableEq, Repr

/-- An encoding of this kind: the sets that it knows, and whether it has shifts for the second set,
single shifts for the third, and the long form of one escape sequence. -/
structure ShiftRules where
  sets : List CodeSet
  locking : Bool
  single : Bool
  long : Bool

namespace ShiftRules

def escape : Nat := 0x1B

def lineFeed : Nat := 0x0A

def isFinal (b : Nat) : Bool := 0x40 ≤ b && b ≤ 0x5A

/-- The length of the escape sequence that goes on with some bytes, where `length` of them have been
passed over and `skip` more are to be. It has 16 bytes at most, else the length is 0; `none` says
that the bytes end before it does. -/
def escapeLength? (rules : ShiftRules) : Nat → Nat → List Nat → Option Nat
  | skip, length, [] => if length + skip < 16 then none else some 0
  | skip + 1, length, _ :: r => escapeLength? rules skip (length + 1) r
  | 0, length, b :: r =>
    if 16 ≤ length then some 0
    else if isFinal b then some (length + 1)
    else if rules.long && b = 0x26 && r.head? = some 0x40 then escapeLength? rules 2 (length + 1) r
    else escapeLength? rules 0 (length + 1) r

inductive Slot
  | first | second | third

def designate (slot : Slot) (set : CodeSet) (s : Shift) : Shift :=
  match slot with
  | .first => { s with first := set }
  | .second => { s with second := set }
  | .third => { s with third := set }

def designation? (rules : ShiftRules) (sequence : List Nat) : Option (Slot × CodeSet) := do
  let (slot, set?) ← (match sequence.map Char.ofNat with
    | [_, '$', final] => some (.first, CodeSet.ofFinal? true final.toNat)
    | [_, '(', final] => some (.first, CodeSet.ofFinal? false final.toNat)
    | [_, ')', final] => some (.second, CodeSet.ofFinal? false final.toNat)
    | [_, '.', final] =>
      if rules.single then some (.third, CodeSet.ofFinal? false final.toNat) else none
    | [_, '$', '(', final] => some (.first, CodeSet.ofFinal? true final.toNat)
    | [_, '$', ')', final] => some (.second, CodeSet.ofFinal? true final.toNat)
    | [_, _, _, '\x1b', '$', 'B'] => if rules.long then some (.first, some .jisX0208) else none
    | _ => none : Option (Slot × Option CodeSet))
  let set ← set?
  if set = .ascii || rules.sets.contains set then some (slot, set) else none

def isIntroducer (b : Nat) : Bool := [0x28, 0x29, 0x24, 0x2E, 0x26].contains b

def stepEscape (rules : ShiftRules) (s : Shift) (bytes : List Nat) : Step Shift :=
  match bytes with
  | _ :: b :: r =>
    if isIntroducer b then
      match escapeLength? rules 0 1 (b :: r) with
      | none => incomplete
      | some 0 => illegal 1
      | some length =>
        match designation? rules (bytes.take length) with
        | some (slot, set) => .turn (designate slot set s) [] length
        | none => illegal length
    else if rules.single && b = 0x4E then
      match r with
      | [] => incomplete
      | c :: _ =>
        match s.third.shiftedChar? c with
        | some c => .char c 3
        | none => illegal 3
    else .turn { s with passing := true } [Char.ofNat escape] 1
  | _ => incomplete

def stepCode (set : CodeSet) : List Nat → Step Shift
  | [] => incomplete
  | a :: r =>
    if set.width = 1 then
      match set.text? a 0 with
      | some t => .text t 1
      | none => illegal 1
    else match r with
      | [] => incomplete
      | b :: _ => match set.text? a b with
        | some t => .text t 2
        | none => illegal 2

def step (rules : ShiftRules) (s : Shift) (bytes : List Nat) : Step Shift :=
  match bytes with
  | [] => incomplete
  | a :: _ =>
    if s.passing then .turn { s with passing := !isFinal a } [Char.ofNat a] 1
    else if a = escape then stepEscape rules s bytes
    else if rules.locking && a = 0x0F then .turn { s with shifted := false } [] 1
    else if rules.locking && a = 0x0E then .turn { s with shifted := true } [] 1
    else if a = lineFeed then .turn { s with shifted := false } ['\n'] 1
    else if a < 0x20 then .char (Char.ofNat a) 1
    else if 0x80 ≤ a then illegal 1
    else stepCode (if s.shifted then s.second else s.first) bytes

def japanese (sets : List CodeSet) : ShiftRules := ⟨sets, false, false, true⟩

def all : List (String × ShiftRules) := [
  ("iso2022_jp", japanese [.jisX0208, .roman, .jisX0208Old]),
  ("iso2022_jp_1", japanese [.jisX0208, .jisX0212, .roman, .jisX0208Old]),
  ("iso2022_jp_2", ⟨[.jisX0208, .jisX0212, .ksX1001, .gb2312, .roman, .jisX0208Old, .latin1, .greek],
    false, true, true⟩),
  ("iso2022_jp_2004", japanese [.jisX0213 .second, .jisX0208, .jisX0213Second]),
  ("iso2022_jp_3", japanese [.jisX0208, .jisX0213 .first, .jisX0213Second]),
  ("iso2022_jp_ext", japanese [.jisX0208, .jisX0212, .roman, .katakana, .jisX0208Old]),
  ("iso2022_kr", ⟨[.ksX1001], true, false, false⟩)]

end ShiftRules

/-- Chinese in seven bits: a tilde and a brace begin and end what is not ASCII. -/
def hz (s : Shift) : List Nat → Step Shift
  | [] => incomplete
  | a :: r =>
    if a = 0x7E then
      match r with
      | [] => incomplete
      | b :: _ =>
        if s.shifted then
          if b = 0x7D then .turn { s with shifted := false } [] 2 else illegal 1
        else if b = 0x7E then .char '~' 2
        else if b = 0x7B then .turn { s with shifted := true } [] 2
        else if b = ShiftRules.lineFeed then .text [] 2
        else illegal 1
    else if 0x80 ≤ a then illegal 1
    else if !s.shifted then .char (Char.ofNat a) 1
    else match r with
      | [] => incomplete
      | b :: _ => stepTo 2 (Charset.gb2312.char? a b)

end Encoding
end Copybook
