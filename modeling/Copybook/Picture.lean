import Copybook.Flaw
import Copybook.Text.Case

/-!
Picture strings. A symbol may be followed by repetition counts in parentheses; expanding writes each
symbol out as often as its counts say, and compacting writes runs of the symbols X, A, 9 and Z with
a count again. -/
namespace Copybook
namespace Picture

/-- The place reached in a picture: before its first symbol, after a symbol that stands written out
as `block`, or inside the parentheses after it, whose content so far is kept backwards. -/
inductive Place
  | start
  | after (block : Text)
  | inside (block count : Text)

/-- The length above which a text cannot be addressed. Memory is taken to be unlimited up to it,
although no machine holds a text that long. -/
def maxLength : Nat := Nat.pow 2 63 - 1

/-- Repeats a block. Only the limit of addresses stops it; that memory may run out far below is left
out. -/
def repeatBlock (block : Text) (count : Nat) : Except RepetitionFault Text :=
  if maxLength < count then .error .countTooBig
  else if maxLength < block.length * count then .error .resultTooLong
  else .ok (Text.repeated count block)

def readCount (picture count : Text) : Except EntryFailure Nat :=
  if count.isEmpty || !count.all isDigitLike then .error (.malformed (.badCount picture count))
  else match Numeral.read count with
    | .error problem => .error (.numeral problem)
    | .ok n => .ok n.toNat

def repeatAs (picture block count : Text) : Except EntryFailure Text :=
  match readCount picture count.trim with
  | .error e => .error e
  | .ok n => match repeatBlock block n with
    | .error fault => .error (.repetition fault)
    | .ok text => .ok text

def expandFrom (picture : Text) : Place → Text → Except EntryFailure Text
  | .start, [] => .ok []
  | .start, c :: r =>
    if c = '(' then .error (.malformed (.noSymbol picture)) else expandFrom picture (.after [c]) r
  | .after block, [] => .ok block
  | .after block, c :: r =>
    if c = '(' then expandFrom picture (.inside block []) r
    else (expandFrom picture (.after [c]) r).map (block ++ ·)
  | .inside _ _, [] => .error (.malformed (.unclosedCount picture))
  | .inside block count, c :: r =>
    if c = ')' then
      match repeatAs picture block count.reverse with
      | .error e => .error e
      | .ok text => expandFrom picture (.after text) r
    else expandFrom picture (.inside block (c :: count)) r

def expand (picture : Text) : Except EntryFailure Text := expandFrom picture .start picture

def capitalIn (symbols : List Char) (c : Char) : Bool :=
  match Case.capital c with
  | [d] => symbols.contains d
  | _ => false

def isRepeatable (c : Char) : Bool := capitalIn ['X', 'A', '9', 'Z'] c

/-- The runs of equal repeatable symbols; every other symbol is a run of its own. -/
def runs : Text → List (Char × Nat)
  | [] => []
  | c :: r =>
    match runs r with
    | [] => [(c, 1)]
    | (d, n) :: rest =>
      if c = d && isRepeatable c then (d, n + 1) :: rest else (c, 1) :: (d, n) :: rest

def writeRun (run : Char × Nat) : Text :=
  if run.2 > 1 then run.1 :: '(' :: Text.ofNat run.2 ++ [')'] else [run.1]

def compact (expanded : Text) : Text := (runs expanded).flatMap writeRun

end Picture
end Copybook
