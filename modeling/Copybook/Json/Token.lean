import Copybook.Json.Value
import Copybook.Text.Numeral

/-!
The tokens of a JSON document with their positions. A token that cannot be read is a token too, so
that a complaint about it is raised only where the document reaches it. -/
namespace Copybook
namespace Json

inductive Complaint
  | byteOrderMark | valueExpected | keyExpected | colonExpected | commaExpected | extraData
  | unterminatedText | controlCharacter | badEscape | badCode
  deriving DecidableEq, Repr

def Complaint.message : Complaint → Text
  | .byteOrderMark => "Unexpected UTF-8 BOM (decode using utf-8-sig)"
  | .valueExpected => "Expecting value"
  | .keyExpected => "Expecting property name enclosed in double quotes"
  | .colonExpected => "Expecting ':' delimiter"
  | .commaExpected => "Expecting ',' delimiter"
  | .extraData => "Extra data"
  | .unterminatedText => "Unterminated string starting at"
  | .controlCharacter => "Invalid control character at"
  | .badEscape => "Invalid \\escape"
  | .badCode => "Invalid \\uXXXX escape"

structure Fault where
  complaint : Complaint
  position : Nat
  deriving DecidableEq, Repr

inductive Mark
  | openList | closeList | openObject | closeObject | comma | colon
  deriving DecidableEq, Repr

inductive Token
  | mark (m : Mark)
  | text (t : Text)
  /-- A word or a number that has its value. -/
  | value (v : Value)
  /-- A whole number of too many digits. -/
  | tooLong (digits : Nat)
  /-- A text that is broken. -/
  | badText (fault : Fault)
  /-- A character with which nothing begins. -/
  | other

namespace Token

def hexDigit? (c : Char) : Option Nat :=
  if '0' ≤ c && c ≤ '9' then some (c.toNat - 48)
  else if 'a' ≤ c && c ≤ 'f' then some (c.toNat - 87)
  else if 'A' ≤ c && c ≤ 'F' then some (c.toNat - 55)
  else none

def hexCode? : Text → Option Nat
  | [] => some 0
  | digits => digits.foldl (fun code c => match code, hexDigit? c with
    | some n, some d => some (16 * n + d)
    | _, _ => none) (some 0)

def escaped? : Char → Option Char
  | '"' => some '"'
  | '\\' => some '\\'
  | '/' => some '/'
  | 'b' => some '\x08'
  | 'f' => some '\x0c'
  | 'n' => some '\n'
  | 'r' => some '\r'
  | 't' => some '\t'
  | _ => none

def isHighHalf (code : Nat) : Bool := 0xD800 ≤ code && code < 0xDC00

def isLowHalf (code : Nat) : Bool := 0xDC00 ≤ code && code < 0xE000

/-- The character of a code. A lone half of a surrogate pair is no character of a text, and the
replacement sign stands in for it. -/
def charOf (code : Nat) : Char :=
  if 0xD800 ≤ code && code < 0xE000 then Char.ofNat 0xFFFD else Char.ofNat code

/-- The character after a backslash and the letter u, with the number of characters that it takes;
`position` is that of the letter. -/
def unicodeEscape (position : Nat) (t : Text) : Except Fault (Char × Nat) :=
  if t.length ≤ 4 then .error ⟨.badCode, position⟩
  else match hexCode? (t.take 4) with
    | none => .error ⟨.badCode, position⟩
    | some high =>
      let after := t.drop 4
      if isHighHalf high && 6 < after.length && after.take 2 == ['\\', 'u'] then
        match hexCode? ((after.drop 2).take 4) with
        | none => .error ⟨.badCode, position + 6⟩
        | some low =>
          if isLowHalf low then
            .ok (Char.ofNat (0x10000 + (high - 0xD800) * 0x400 + (low - 0xDC00)), 10)
          else .ok (charOf high, 4)
      else .ok (charOf high, 4)

/-- The content of a text from `position` on, which began at `start`, with the position after its
closing quote. Characters that an escape has used up are skipped. -/
def readText (start : Nat) : Nat → Nat → Text → Except Fault (Text × Nat)
  | _, _, [] => .error ⟨.unterminatedText, start⟩
  | position, skip + 1, _ :: r => readText start (position + 1) skip r
  | position, 0, c :: r =>
    if c = '"' then .ok ([], position + 1)
    else if c = '\\' then
      match r with
      | [] => .error ⟨.unterminatedText, start⟩
      | 'u' :: code =>
        match unicodeEscape (position + 1) code with
        | .error fault => .error fault
        | .ok (d, used) =>
          (readText start (position + 1) (used + 1) r).map fun (t, next) => (d :: t, next)
      | e :: _ =>
        match escaped? e with
        | none => .error ⟨.badEscape, position⟩
        | some d => (readText start (position + 1) 1 r).map fun (t, next) => (d :: t, next)
    else if c.toNat < 0x20 then .error ⟨.controlCharacter, position⟩
    else (readText start (position + 1) 0 r).map fun (t, next) => (c :: t, next)

def digitsOf (t : Text) : Text := t.takeWhile Char.isDigit

def valueOf (digits : Text) : Nat := digits.foldl (fun n c => 10 * n + (c.toNat - 48)) 0

def fractionOf : Text → Text
  | '.' :: r => digitsOf r
  | _ => []

def exponentOf : Text → Int × Nat
  | c :: r =>
    if c = 'e' || c = 'E' then
      let (negative, unsigned, signLength) := match r with
        | '-' :: u => (true, u, 1)
        | '+' :: u => (false, u, 1)
        | u => (false, u, 0)
      let digits := digitsOf unsigned
      if digits.isEmpty then (0, 0)
      else
        let n : Int := valueOf digits
        (if negative then -n else n, 1 + signLength + digits.length)
    else (0, 0)
  | [] => (0, 0)

def readNumber (negative : Bool) (t : Text) : Option (Token × Nat) :=
  let whole := match t with
    | '0' :: _ => ['0']
    | _ => digitsOf t
  if whole.isEmpty then none
  else
    let afterWhole := t.drop whole.length
    let fraction := fractionOf afterWhole
    let afterFraction :=
      if fraction.isEmpty then afterWhole else afterWhole.drop (1 + fraction.length)
    let (exponent, exponentLength) := exponentOf afterFraction
    if fraction.isEmpty && exponentLength == 0 then
      let n : Int := valueOf whole
      some (if Numeral.digitLimit < whole.length then .tooLong whole.length
        else .value (.int (if negative then -n else n)), whole.length)
    else
      let digits := valueOf (whole ++ fraction)
      some (.value (.float (Binary64.ofDecimal negative digits (exponent - fraction.length))),
        whole.length + (if fraction.isEmpty then 0 else 1 + fraction.length) + exponentLength)

def words : List (Text × Value) :=
  [("null", .null), ("true", .bool true), ("false", .bool false), ("NaN", .float .nan),
   ("Infinity", .float (.infinite false)), ("-Infinity", .float (.infinite true))]

def first (position : Nat) (t : Text) : Token × Nat :=
  match t with
  | [] => (.other, 1)
  | '[' :: _ => (.mark .openList, 1)
  | ']' :: _ => (.mark .closeList, 1)
  | '\x7b' :: _ => (.mark .openObject, 1)
  | '\x7d' :: _ => (.mark .closeObject, 1)
  | ',' :: _ => (.mark .comma, 1)
  | ':' :: _ => (.mark .colon, 1)
  | '"' :: r =>
    match readText position (position + 1) 0 r with
    | .ok (content, next) => (.text content, next - position)
    | .error fault => (.badText fault, 1)
  | c :: r =>
    match words.find? fun entry => entry.1.isPrefixOf t with
    | some (word, v) => (.value v, word.length)
    | none =>
      if c = '-' then
        match readNumber true r with
        | some (token, length) => (token, length + 1)
        | none => (.other, 1)
      else (readNumber false t).getD (.other, 1)

def isSpace (c : Char) : Bool := c = ' ' || c = '\t' || c = '\n' || c = '\r'

/-- The tokens of a text from `position` on with their positions, after `skip` characters that
belong to the last token. -/
def scanFrom : Nat → Nat → Text → List (Nat × Token)
  | _, _, [] => []
  | position, skip + 1, _ :: r => scanFrom (position + 1) skip r
  | position, 0, c :: r =>
    if isSpace c then scanFrom (position + 1) 0 r
    else
      let (token, length) := first position (c :: r)
      (position, token) :: scanFrom (position + 1) (length - 1) r

def scan (t : Text) : List (Nat × Token) := scanFrom 0 0 t

end Token
end Json
end Copybook
