import Copybook.CommandLine.Refusal
import Copybook.Text.Digit

/-!
The words of a command line, told apart by themselves: switches, words that look like one, and all
others. A long name may be shortened as long as it fits one switch only, and a value may be attached
to a name. -/
namespace Copybook
namespace CommandLine

inductive Token
  /-- A word that may be the value of a switch. -/
  | plain (word : Text)
  /-- A word that looks like a switch and is none, or the mark behind which there are no switches. -/
  | unknown (word : Text)
  /-- A switch by a long or a short name, with what is attached to it in the same word. -/
  | switch (s : Switch) (short : Bool) (attached : Option Text)
  deriving DecidableEq, Repr

namespace Token

def separator : Text := ['-', '-']

def isShort (name : Text) : Bool := !separator.isPrefixOf name

def splitEquals (word : Text) : Text × Option Text :=
  match Text.breakOn ['='] word with
  | some (name, value) => (name, some value)
  | none => (word, none)

/-- A word that is the name of a switch, alone or with a value behind an equals sign. -/
def named? (word : Text) : Option Token :=
  match Switch.ofName? word with
  | some s => some (.switch s (isShort word) none)
  | none =>
    let (name, attached) := splitEquals word
    (Switch.ofName? name).map fun s => .switch s (isShort name) attached

/-- The readings of a word with two dashes: all names that begin with it. -/
def longReadings (word : Text) : List (Text × Token) :=
  let (name, attached) := splitEquals word
  (Switch.spellings.filter fun spelling => name.isPrefixOf spelling.1).map fun (full, s) =>
    (full, .switch s false attached)

/-- The readings of a word with one dash: the short name in front, with the rest attached. -/
def shortReadings : Text → List (Text × Token)
  | dash :: c :: rest =>
    (Switch.ofName? [dash, c]).toList.map fun s => ([dash, c], .switch s true (some rest))
  | _ => []

def isDecimal (t : Text) : Bool := !t.isEmpty && t.all fun c => (Digit.value? c).isSome

/-- Digits, with at most one point in front of the last of them. -/
def isAmount (t : Text) : Bool :=
  isDecimal t ||
    match t.dropWhile fun c => (Digit.value? c).isSome with
    | '.' :: fraction => isDecimal fraction
    | _ => false

/-- Whether a word behind a dash makes a negative number; a line end may follow. -/
def isNegative : Text → Bool
  | '-' :: t => isAmount t || (t.getLast? = some '\n' && isAmount t.dropLast)
  | _ => false

def read (word : Text) : Except Refusal Token :=
  if word.head? != some '-' then .ok (.plain word)
  else match named? word with
    | some token => .ok token
    | none =>
      if word = ['-'] then .ok (.plain word)
      else match if isShort word then shortReadings word else longReadings word with
        | [(_, token)] => .ok token
        | [] => .ok (if isNegative word || word.contains ' ' then .plain word else .unknown word)
        | readings => .error (.ambiguous word (readings.map (·.1)))

/-- Tells what the words are; behind the separator all are plain. -/
def readAll : List Text → Except Refusal (List Token)
  | [] => .ok []
  | word :: rest =>
    if word = separator then .ok (.unknown word :: rest.map .plain)
    else do return (← read word) :: (← readAll rest)

end Token
end CommandLine
end Copybook
