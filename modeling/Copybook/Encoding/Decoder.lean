import Copybook.Encoding.Chinese
import Copybook.Encoding.CodePage
import Copybook.Encoding.DomainName
import Copybook.Encoding.Escaped
import Copybook.Encoding.Korean
import Copybook.Encoding.Name
import Copybook.Encoding.Shifted
import Copybook.Encoding.Utf7
import Copybook.Text.Case
import Copybook.Text.Lines

/-!
Decoding bytes into text, all at once or block by block. A block may end inside a character, whose
bytes are then kept for the next block. -/
namespace Copybook
namespace Encoding

/-- Bytes that cannot be decoded: their position in the data at hand, and why. -/
structure Fault where
  codec : Text
  bytes : Bytes
  position : Nat
  reason : Text
  deriving DecidableEq, Repr

def Fault.message (f : Fault) : Text :=
  "'" ++ f.codec ++ "' codec can't decode " ++
    (match f.bytes with
      | [b] => "byte 0x" ++ Text.hex 2 b.toNat ++ " in position " ++ Text.ofNat f.position
      | bytes => "bytes in position " ++ Text.ofNat f.position ++ "-" ++
          Text.ofNat (f.position + bytes.length - 1)) ++
    ": " ++ f.reason

inductive Failure
  | undecodable (fault : Fault)
  /-- The data lack the mark that tells the order of bytes. -/
  | noByteOrder (bits : Nat)
  /-- More bytes would have to be kept than there is room for. -/
  | overflow
  | notPunycode (fault : Punycode.Fault)
  | notADomainName (fault : DomainName.Fault)
  /-- The encoding is there to refuse all data. -/
  | undefined
  deriving DecidableEq, Repr

def Failure.message : Failure → Text
  | .undecodable fault => fault.message
  | .noByteOrder bits => "UTF-" ++ Text.ofNat bits ++ " stream does not start with BOM"
  | .overflow => "pending buffer overflow"
  | .notPunycode fault => fault.message
  | .notADomainName fault => fault.message
  | .undefined => "undefined encoding"

/-- An encoding whose decoder remembers a `σ`. -/
structure Codec (σ : Type) where
  name : String
  step : σ → List Nat → Step σ

def bytesOf (numbers : List Nat) : Bytes := numbers.map UInt8.ofNat

/-- What decoding a block comes to: the text, the bytes kept because a character in them is not
complete, and what the decoder remembers. -/
structure Block (σ : Type) where
  text : Text
  kept : Bytes
  state : σ

def Block.behind {σ : Type} (t : Text) (b : Block σ) : Block σ := { b with text := t ++ b.text }

variable {σ : Type}

/-- Decodes bytes from `position` on; `skip` of them belong to the last character. At the end of the
data nothing is kept. -/
def Codec.decodeFrom (codec : Codec σ) (final : Bool) :
    Nat → Nat → σ → List Nat → Except Fault (Block σ)
  | _, _, s, [] => .ok ⟨[], [], s⟩
  | position, skip + 1, s, _ :: r => codec.decodeFrom final (position + 1) skip s r
  | position, 0, s, b :: r =>
    match codec.step s (b :: r) with
    | .text t length =>
      (codec.decodeFrom final (position + 1) (length - 1) s r).map (Block.behind t)
    | .turn s t length =>
      (codec.decodeFrom final (position + 1) (length - 1) s r).map (Block.behind t)
    | .unended t => if final then .ok ⟨t, [], s⟩ else .ok ⟨[], bytesOf (b :: r), s⟩
    | .broken length reason =>
      .error ⟨codec.name, bytesOf ((b :: r).take length), position, reason⟩
    | .late length reason =>
      if final then .error ⟨codec.name, bytesOf ((b :: r).take length), position, reason⟩
      else .ok ⟨[], bytesOf (b :: r), s⟩
    | .short reason =>
      if final then .error ⟨codec.name, bytesOf (b :: r), position, reason⟩
      else .ok ⟨[], bytesOf (b :: r), s⟩

def Codec.decode (codec : Codec σ) (final : Bool) (position : Nat) (s : σ) (bytes : Bytes) :
    Except Fault (Block σ) :=
  codec.decodeFrom final position 0 s (bytes.map UInt8.toNat)

def Codec.plain (name : String) (step : List Nat → Step Unit) : Codec Unit := ⟨name, fun _ => step⟩

def Codec.utf8 : Codec Unit := .plain "utf-8" Encoding.utf8

/-- Text from UTF-8 bytes, with the replacement sign for what cannot be decoded. -/
def decodeLossyFrom : Nat → List Nat → Text
  | _, [] => []
  | skip + 1, _ :: r => decodeLossyFrom skip r
  | 0, b :: r =>
    match (Encoding.utf8 (b :: r) : Step Unit) with
    | .text t length | .turn _ t length => t ++ decodeLossyFrom (length - 1) r
    | .broken length _ | .late length _ => Char.ofNat 0xFFFD :: decodeLossyFrom (length - 1) r
    | .unended _ | .short _ => [Char.ofNat 0xFFFD]

def decodeLossy (bytes : Bytes) : Text := decodeLossyFrom 0 (bytes.map UInt8.toNat)

def encodeUtf8 (t : Text) : Bytes := t.flatMap String.utf8EncodeChar

/-- What is known about the encoding of a file while it is read. -/
inductive Decoder
  | plain (codec : Codec Unit)
  | shifting (codec : Codec Shift) (shift : Shift)
  /-- UTF-8 that may begin with a byte order mark. -/
  | signed
  /-- UTF-16 or UTF-32 that begins with a byte order mark. -/
  | marked (bits : Nat)
  | punycode
  | domainNames
  | undefined

namespace Decoder

def utf16 (big : Bool) : Codec Unit :=
  .plain (if big then "utf-16-be" else "utf-16-le") (Encoding.utf16 big)

def utf32 (big : Bool) : Codec Unit :=
  .plain (if big then "utf-32-be" else "utf-32-le") (Encoding.utf32 big)

def codecs : List (Codec Unit) :=
  [.plain "shift_jis" shiftJis, .plain "cp932" cp932,
   .plain "shift_jisx0213" (shiftJisX0213 .first), .plain "shift_jis_2004" (shiftJisX0213 .second),
   .plain "euc_jp" eucJp, .plain "euc_jisx0213" (eucJisX0213 .first),
   .plain "euc_jis_2004" (eucJisX0213 .second), .plain "euc_kr" eucKr, .plain "cp949" cp949,
   .plain "johab" johab, .plain "gb2312" gb2312, .plain "gbk" gbk, .plain "gb18030" gb18030,
   .plain "big5" big5, .plain "cp950" cp950, .plain "big5hkscs" big5hkscs]

def ofName (name : String) : Decoder :=
  match name with
  | "utf_8" => .plain .utf8
  | "utf_8_sig" => .signed
  | "ascii" => .plain (.plain "ascii" Encoding.ascii)
  | "latin_1" | "iso8859_1" | "charmap" => .plain (.plain "latin-1" Encoding.latin1)
  | "utf_16" => .marked 16
  | "utf_16_le" => .plain (utf16 false)
  | "utf_16_be" => .plain (utf16 true)
  | "utf_32" => .marked 32
  | "utf_32_le" => .plain (utf32 false)
  | "utf_32_be" => .plain (utf32 true)
  | "utf_7" => .plain (.plain "utf7" utf7)
  | "unicode_escape" => .plain (.plain "unicodeescape" escapes)
  | "raw_unicode_escape" => .plain (.plain "rawunicodeescape" rawEscapes)
  | "hz" => .shifting ⟨"hz", hz⟩ {}
  | "punycode" => .punycode
  | "idna" => .domainNames
  | "undefined" => .undefined
  | _ =>
    match codecs.find? fun codec => codec.name == name with
    | some codec => .plain codec
    | none => match ShiftRules.all.lookup name with
      | some rules => .shifting ⟨name, rules.step⟩ {}
      | none => .plain (.plain "charmap" (Encoding.page ((CodePage.find? name).getD [])))

def signature : Bytes := [0xEF, 0xBB, 0xBF]

abbrev Progress := Except Failure (Block Decoder)

def decodePlain (codec : Codec Unit) (final : Bool) (position : Nat) (bytes : Bytes) : Progress :=
  match codec.decode final position () bytes with
  | .ok b => .ok ⟨b.text, b.kept, .plain codec⟩
  | .error fault => .error (.undecodable fault)

/-- How many bytes a decoder with shifts keeps at most. -/
def room : Nat := 8

def decodeShifting (codec : Codec Shift) (shift : Shift) (final : Bool) (bytes : Bytes) : Progress :=
  match codec.decode final 0 shift bytes with
  | .ok b =>
    if room < b.kept.length then .error .overflow else .ok ⟨b.text, b.kept, .shifting codec b.state⟩
  | .error fault => .error (.undecodable fault)

/-- The order of bytes that a mark at the beginning tells: whether the high byte comes first. -/
def order? (bits : Nat) (bytes : Bytes) : Option Bool :=
  let marks : Bytes × Bytes :=
    if bits = 16 then ([0xFF, 0xFE], [0xFE, 0xFF])
    else ([0xFF, 0xFE, 0x00, 0x00], [0x00, 0x00, 0xFE, 0xFF])
  if marks.1.isPrefixOf bytes then some false
  else if marks.2.isPrefixOf bytes then some true
  else none

def wide (bits : Nat) (big : Bool) : Codec Unit := if bits = 16 then utf16 big else utf32 big

def decodeMarked (bits : Nat) (final : Bool) (bytes : Bytes) : Progress :=
  match order? bits bytes with
  | some big => decodePlain (wide bits big) final (bits / 8) (bytes.drop (bits / 8))
  | none =>
    match (wide bits false).decode final 0 () bytes with
    | .error fault => .error (.undecodable fault)
    | .ok b =>
      if bytes.length - b.kept.length < bits / 8 then .ok ⟨[], bytes, .marked bits⟩
      else .error (.noByteOrder bits)

def asciiText (bytes : Bytes) : Except Failure Text :=
  match (Codec.plain "ascii" Encoding.ascii).decode true 0 () bytes with
  | .ok b => .ok b.text
  | .error fault => .error (.undecodable fault)

/-- Each block is a text in Punycode; what stands before the last dash is plain. -/
def decodePunycode (bytes : Bytes) : Progress := do
  let (front, rest) := Punycode.parts (bytes.map fun b => Char.ofNat b.toNat)
  let front ← asciiText (front.map fun c => UInt8.ofNat c.toNat)
  let rest ← asciiText (rest.map fun c => UInt8.ofNat c.toNat)
  match Punycode.decodeParts front rest with
  | .ok t => .ok ⟨t, [], .punycode⟩
  | .error fault => .error (.notPunycode fault)

def decodeDomainNames (final : Bool) (bytes : Bytes) : Progress := do
  match DomainName.decode final (← asciiText bytes) with
  | .ok (t, length) => return ⟨t, bytes.drop length, .domainNames⟩
  | .error fault => .error (.notADomainName fault)

def decode (decoder : Decoder) (final : Bool) (bytes : Bytes) : Progress :=
  match decoder with
  | .plain codec => decodePlain codec final 0 bytes
  | .shifting codec shift => decodeShifting codec shift final bytes
  | .signed =>
    if bytes.length < 3 && bytes.isPrefixOf signature then .ok ⟨[], bytes, .signed⟩
    else if signature.isPrefixOf bytes then decodePlain .utf8 final 0 (bytes.drop 3)
    else decodePlain .utf8 final 0 bytes
  | .marked bits => decodeMarked bits final bytes
  | .punycode => decodePunycode bytes
  | .domainNames => decodeDomainNames final bytes
  | .undefined => .error .undefined

/-- The text of the bytes kept at the end. They are decoded until no more text comes of it, and so at
most once for each of them and once more. -/
def finish (decoder : Decoder) (kept : Bytes) : Nat → Text × Option Failure
  | 0 => ([], none)
  | rounds + 1 =>
    match decoder.decode true kept with
    | .error failure => ([], some failure)
    | .ok ⟨[], _, _⟩ => ([], none)
    | .ok b =>
      let (more, failure) := finish b.state b.kept rounds
      (b.text ++ more, failure)

/-- The text of blocks that follow one another, up to the end or up to the block that cannot be
decoded. -/
def run (decoder : Decoder) (kept : Bytes) : List Bytes → Text × Option Failure
  | [] => finish decoder kept (kept.length + 1)
  | block :: blocks =>
    match decoder.decode false (kept ++ block) with
    | .ok b =>
      let (more, failure) := run b.state b.kept blocks
      (b.text ++ more, failure)
    | .error failure => ([], some failure)

end Decoder

inductive NameFault
  | unknown (name : Text)
  | notText (name : Text)
  deriving DecidableEq, Repr

def NameFault.message : NameFault → Text
  | .unknown name => "unknown encoding: " ++ name
  | .notText name =>
    "'" ++ name ++ "' is not a text encoding; use codecs.open() to handle arbitrary codecs"

/-- The name that stands for the encoding of the surroundings, which is UTF-8. -/
def surroundings : Text := "locale"

def decoderFor (name : Text) : Except NameFault Decoder :=
  if name = surroundings then .ok (.plain .utf8)
  else match find? textNames (normalize name) with
  | some entry => .ok (Decoder.ofName entry)
  | none =>
    if (find? otherNames (normalize name)).isSome then .error (.notText name)
    else .error (.unknown name)

def blockSize : Nat := 8192

/-- Cuts bytes into blocks; `room` is what the current block may still take. -/
def blocksFrom (room : Nat) : Bytes → List Bytes
  | [] => []
  | b :: r =>
    match room with
    | 0 | 1 => [b] :: blocksFrom blockSize r
    | room + 1 =>
      match blocksFrom room r with
      | [] => [[b]]
      | block :: blocks => (b :: block) :: blocks

def blocks (bytes : Bytes) : List Bytes := blocksFrom blockSize bytes

/-- The lines that a file yields, each with its line feed, and why it yields no more of them. -/
structure Delivery where
  lines : List Text
  failure : Option Failure

/-- The lines of a text that are complete, with a carriage return at the end held back. -/
def completeLines (t : Text) : List Text :=
  let settled := if t.getLast? = some '\r' then t.dropLast else t
  (Text.lines (Text.unifyLineEnds settled)).filter fun line => line.getLast? = some '\n'

/-- Reads a file line by line. When bytes cannot be decoded, the lines before their block are still
delivered. -/
def deliver (decoder : Decoder) (bytes : Bytes) : Delivery :=
  match decoder.run [] (blocks bytes) with
  | (t, none) => ⟨Text.lines (Text.unifyLineEnds t), none⟩
  | (t, some failure) => ⟨completeLines t, some failure⟩

def readAll (bytes : Bytes) : Except Fault Text :=
  match Codec.utf8.decode true 0 () bytes with
  | .ok b => .ok (Text.unifyLineEnds b.text)
  | .error fault => .error fault

end Encoding
end Copybook
