import Copybook.Card
import Copybook.Clause
import Copybook.Log

/-!
Sentences: the entries of a copybook put together from its lines. A sentence ends on the first line
whose code ends with a period. Lines are joined by a blank, except that a continuation line is
joined directly, and without its first quote when the part before it ends inside a literal. -/
namespace Copybook

structure Sentence where
  /-- The line on which the sentence starts. -/
  line : Nat
  /-- The text without its final period. -/
  text : Text
  deriving DecidableEq, Repr

namespace Sentence

/-- The quote of the literal in which a text ends, if the text before it ended in `quote`. -/
def openQuote : Option Char → Text → Option Char
  | quote, [] => quote
  | none, c :: r => openQuote (if Clause.isQuote c then some c else none) r
  | some quote, c :: r => openQuote (if c = quote then none else some quote) r

def hasOpenLiteral (t : Text) : Bool := (openQuote none t).isSome

def isContinued (code : Text) : Bool := code.trim.getLast? != some '.'

/-- A sentence under construction: its first line, its last part, and the parts before, the latest
first. -/
structure Draft where
  line : Nat
  last : Text
  earlier : List Text

namespace Draft

def begin (card : Card) : Draft := ⟨card.number, card.code.trim, []⟩

/-- The code of a continuation line, without the quote that reopens a literal. -/
def fragment (last : Text) (code : Text) : Text :=
  match code.trim with
  | [] => []
  | c :: r => if hasOpenLiteral last && Clause.isQuote c then r else c :: r

def extend (d : Draft) (card : Card) : Draft :=
  if card.isContinuation then { d with last := d.last ++ fragment d.last card.code }
  else { d with last := card.code.trim, earlier := d.last :: d.earlier }

def joined (d : Draft) : Text := Text.join [' '] (d.last :: d.earlier).reverse

/-- The sentence, with its final period removed. -/
def finish (d : Draft) : Sentence :=
  let text := d.joined.trim
  ⟨d.line, if text.getLast? = some '.' then Text.trimEnd text.dropLast else text⟩

end Draft

/-- The sentences that are closed by a period, and the one left open at the end. -/
structure Scan where
  closed : List Sentence
  pending : Option Sentence
  deriving DecidableEq, Repr

/-- A sentence left open is worth a warning. -/
def Scan.notes (s : Scan) : List Log.Record :=
  match s.pending with
  | none => []
  | some sentence =>
    [⟨.warning, Log.Channel.declarations, "Line " ++ Text.ofNat sentence.line ++
      ": declaration not terminated by a period: " ++ sentence.text⟩]

def scanFrom : Nat → Option Draft → List Text → Scan
  | _, draft, [] => ⟨[], draft.map Draft.finish⟩
  | number, draft, raw :: rest =>
    let card : Card := ⟨Text.dropEndWhile (fun c => c = '\r' || c = '\n') raw, number⟩
    if card.isSkippable then scanFrom (number + 1) draft rest
    else
      let grown := match draft with
        | none => Draft.begin card
        | some d => d.extend card
      if isContinued card.code then scanFrom (number + 1) (some grown) rest
      else
        let scan := scanFrom (number + 1) none rest
        { scan with closed := grown.finish :: scan.closed }

def scan (lines : List Text) : Scan := scanFrom 1 none lines

def ofLines (lines : List Text) : List Sentence :=
  (scan lines).closed ++ (scan lines).pending.toList

end Sentence
end Copybook
