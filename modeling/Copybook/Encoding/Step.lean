import Copybook.Text.Basic

/-!
One step of decoding: what the first of a row of bytes stand for and how many they are, or what is
wrong with them. Every encoding is given by its step, and one loop serves them all. -/
namespace Copybook

abbrev Bytes := List UInt8

namespace Encoding

inductive Step (σ : Type)
  | text (t : Text) (length : Nat)
  /-- So it is too, and what the decoder remembers changes. -/
  | turn (state : σ) (t : Text) (length : Nat)
  /-- All bytes stand for some text if the data end here, and may begin another one if not. -/
  | unended (t : Text)
  /-- The first `length` bytes stand for no character. -/
  | broken (length : Nat) (reason : String)
  /-- So it is too, but it shows only at the end of the data. -/
  | late (length : Nat) (reason : String)
  /-- A character begins here, and the bytes end before it does. -/
  | short (reason : String)
  deriving DecidableEq, Repr

variable {σ : Type}

def Step.char (c : Char) (length : Nat) : Step σ := .text [c] length

def isContinuation (b : Nat) : Bool := 0x80 ≤ b && b ≤ 0xBF

def continuationReason : String := "invalid continuation byte"

def badContinuation (length : Nat) : Step σ := .broken length continuationReason

/-- The bytes that may come second in a character of three or four bytes. -/
def isSecond (first second : Nat) : Bool :=
  isContinuation second &&
    !(first == 0xE0 && second < 0xA0) && !(first == 0xED && 0xA0 ≤ second) &&
    !(first == 0xF0 && second < 0x90) && !(first == 0xF4 && 0x90 ≤ second)

def endOfData : Step σ := .short "unexpected end of data"

def utf8 : List Nat → Step σ
  | [] => endOfData
  | a :: r =>
    if a < 0x80 then .char (Char.ofNat a) 1
    else if a < 0xC2 || 0xF4 < a then .broken 1 "invalid start byte"
    else if a < 0xE0 then
      match r with
      | [] => endOfData
      | b :: _ =>
        if isContinuation b then .char (Char.ofNat ((a - 0xC0) * 0x40 + (b - 0x80))) 2
        else badContinuation 1
    else if a < 0xF0 then
      match r with
      | [] => endOfData
      | [b] =>
        if isSecond a b then endOfData
        else if a == 0xED && isContinuation b then .late 1 continuationReason
        else badContinuation 1
      | b :: c :: _ =>
        if !isSecond a b then badContinuation 1
        else if !isContinuation c then badContinuation 2
        else .char (Char.ofNat (((a - 0xE0) * 0x40 + (b - 0x80)) * 0x40 + (c - 0x80))) 3
    else
      match r with
      | [] => endOfData
      | [b] => if isSecond a b then endOfData else badContinuation 1
      | [b, c] =>
        if !isSecond a b then badContinuation 1
        else if !isContinuation c then badContinuation 2
        else endOfData
      | b :: c :: d :: _ =>
        if !isSecond a b then badContinuation 1
        else if !isContinuation c then badContinuation 2
        else if !isContinuation d then badContinuation 3
        else .char (Char.ofNat
          ((((a - 0xF0) * 0x40 + (b - 0x80)) * 0x40 + (c - 0x80)) * 0x40 + (d - 0x80))) 4

def ascii : List Nat → Step σ
  | [] => endOfData
  | a :: _ => if a < 0x80 then .char (Char.ofNat a) 1 else .broken 1 "ordinal not in range(128)"

def latin1 : List Nat → Step σ
  | [] => endOfData
  | a :: _ => .char (Char.ofNat a) 1

def page (chars : List Char) : List Nat → Step σ
  | [] => endOfData
  | a :: _ =>
    match chars[a]? with
    | some c => if c.toNat = 0xFFFE then .broken 1 "character maps to <undefined>" else .char c 1
    | none => .broken 1 "character maps to <undefined>"

def pair (big : Bool) (a b : Nat) : Nat := if big then a * 0x100 + b else b * 0x100 + a

def utf16 (big : Bool) : List Nat → Step σ
  | a :: b :: r =>
    let high := pair big a b
    if high < 0xD800 || 0xE000 ≤ high then .char (Char.ofNat high) 2
    else if 0xDC00 ≤ high then .broken 2 "illegal encoding"
    else match r with
      | c :: d :: _ =>
        let low := pair big c d
        if 0xDC00 ≤ low && low < 0xE000 then
          .char (Char.ofNat (0x10000 + (high - 0xD800) * 0x400 + (low - 0xDC00))) 4
        else .broken 2 "illegal UTF-16 surrogate"
      | _ => endOfData
  | _ => .short "truncated data"

def utf32 (big : Bool) : List Nat → Step σ
  | a :: b :: c :: d :: _ =>
    let code :=
      if big then pair big a b * 0x10000 + pair big c d else pair big c d * 0x10000 + pair big a b
    if 0xD800 ≤ code && code < 0xE000 then
      .broken 4 "code point in surrogate code point range(0xd800, 0xe000)"
    else if 0x110000 ≤ code then .broken 4 "code point not in range(0x110000)"
    else .char (Char.ofNat code) 4
  | _ => .short "truncated data"

end Encoding
end Copybook
