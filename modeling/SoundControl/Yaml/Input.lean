import SoundControl.Yaml.Token
import SoundControl.Bytes

/-! # YAML input

The characters of a YAML byte stream in the encoding its byte order mark picks. The stream is
read 512 bytes at a time, so a bad character is a fault only once the scanner asks for a
character of the read that holds it. -/

namespace SoundControl.Yaml

/-- A reader fault. -/
def readerError (problem : String) : YamlError := { stage := .reader, problem := problem }

/-- Whether a code point may stand in a YAML stream. -/
def isAllowed (n : Nat) : Bool :=
  n = 0x09 || n = 0x0A || n = 0x0D || (0x20 ≤ n && n ≤ 0x7E) || n = 0x85 ||
    (0xA0 ≤ n && n ≤ 0xD7FF) || (0xE000 ≤ n && n ≤ 0xFFFD) || (0x10000 ≤ n && n ≤ 0x10FFFF)

/-- The character of a code point checked by `isAllowed`. -/
def allowedChar (n : Nat) : Except YamlError Char :=
  if isAllowed n then .ok (Char.ofNat n) else .error (readerError "control characters are not allowed")

/-- The width of a UTF-8 sequence by its leading byte, 0 for a byte that cannot lead. -/
def leadWidth (b : UInt8) : Nat :=
  if b &&& 0x80 = 0 then 1
  else if b &&& 0xE0 = 0xC0 then 2
  else if b &&& 0xF0 = 0xE0 then 3
  else if b &&& 0xF8 = 0xF0 then 4
  else 0

/-- The payload bits of a leading byte of the given width. -/
def leadBits (w : Nat) (b : UInt8) : Nat :=
  if w = 1 then (b &&& 0x7F).toNat
  else if w = 2 then (b &&& 0x1F).toNat
  else if w = 3 then (b &&& 0x0F).toNat
  else (b &&& 0x07).toNat

/-- Adds trailing bytes to a code point, checking that each is a continuation byte. -/
def trailing (acc : Nat) : List UInt8 → Except YamlError Nat
  | [] => .ok acc
  | b :: rest =>
    if b &&& 0xC0 ≠ 0x80 then .error (readerError "invalid trailing UTF-8 octet")
    else trailing (acc * 64 + (b &&& 0x3F).toNat) rest

/-- What decoding one read gives: the characters decoded so far, the bytes of a last character
that the read cut short, and the fault that stopped the decoding, if one did. -/
structure Decoded where
  chars : Array Char
  left : Bytes := []
  fault : Option YamlError := none

/-- Decoding stopped by a reader fault after the given characters. -/
def Decoded.stopped (acc : Array Char) (problem : String) : Decoded :=
  ⟨acc, [], some (readerError problem)⟩

/-- Decodes the UTF-8 characters of one read: the characters, and the bytes of a last character
that the read cut short, which wait for the next read. At the end of the stream (`eof`) such a
character is a fault. A fault stops the decoding, and the characters before it are kept. -/
def utf8Chars (eof : Bool) (acc : Array Char) : Bytes → Decoded
  | [] => ⟨acc, [], none⟩
  | b :: rest =>
    let w := leadWidth b
    if w = 0 then .stopped acc "invalid leading UTF-8 octet"
    else if rest.length < w - 1 then
      if eof then .stopped acc "incomplete UTF-8 octet sequence"
      else ⟨acc, b :: rest, none⟩
    else
      match trailing (leadBits w b) (rest.take (w - 1)) with
      | .error e => ⟨acc, [], some e⟩
      | .ok v =>
        if ¬ (w = 1 ∨ (w = 2 ∧ 0x80 ≤ v) ∨ (w = 3 ∧ 0x800 ≤ v) ∨ (w = 4 ∧ 0x10000 ≤ v)) then
          .stopped acc "invalid length of a UTF-8 sequence"
        else if (0xD800 ≤ v ∧ v ≤ 0xDFFF) ∨ 0x10FFFF < v then
          .stopped acc "invalid Unicode character"
        else
          match allowedChar v with
          | .error e => ⟨acc, [], some e⟩
          | .ok c => utf8Chars eof (acc.push c) (rest.drop (w - 1))
termination_by bs => bs.length
decreasing_by
  rw [List.length_drop, List.length_cons]
  omega

/-- Decodes the UTF-16 characters of one read in the given byte order, as `utf8Chars` does. -/
def utf16Chars (bigEndian eof : Bool) (acc : Array Char) : Bytes → Decoded
  | [] => ⟨acc, [], none⟩
  | [b] => if eof then .stopped acc "incomplete UTF-16 character" else ⟨acc, [b], none⟩
  | a :: b :: rest =>
    let unit := if bigEndian then a.toNat * 256 + b.toNat else b.toNat * 256 + a.toNat
    if 0xDC00 ≤ unit ∧ unit ≤ 0xDFFF then .stopped acc "unexpected low surrogate area"
    else if 0xD800 ≤ unit ∧ unit ≤ 0xDBFF then
      match rest with
      | c :: d :: more =>
        let low := if bigEndian then c.toNat * 256 + d.toNat else d.toNat * 256 + c.toNat
        if ¬ (0xDC00 ≤ low ∧ low ≤ 0xDFFF) then .stopped acc "expected low surrogate area"
        else
          match allowedChar (0x10000 + (unit - 0xD800) * 0x400 + (low - 0xDC00)) with
          | .error e => ⟨acc, [], some e⟩
          | .ok ch => utf16Chars bigEndian eof (acc.push ch) more
      | _ =>
        if eof then .stopped acc "incomplete UTF-16 surrogate pair"
        else ⟨acc, a :: b :: rest, none⟩
    else
      match allowedChar unit with
      | .error e => ⟨acc, [], some e⟩
      | .ok ch => utf16Chars bigEndian eof (acc.push ch) rest

/-- The encoding of a stream. -/
inductive Encoding where
  | utf8
  | utf16 (bigEndian : Bool)
  deriving DecidableEq, Repr

/-- Decodes the characters of one read in the given encoding. -/
def Encoding.chars (enc : Encoding) (eof : Bool) (acc : Array Char) (bs : Bytes) : Decoded :=
  match enc with
  | .utf8 => utf8Chars eof acc bs
  | .utf16 bigEndian => utf16Chars bigEndian eof acc bs

/-- What the reader hands the scanner: the characters it decodes before the read that holds a
fault, the fault, and the characters of that read before the fault. A scanner that asks for a
character past the first ones gets the fault; without one, past them is the end of the stream.
The characters before the fault have been decoded all the same, and a look ahead that goes on
after the fault can read them. `reads` counts the characters of each read before the one with
the fault, in order; they add up to the length of `chars`. -/
structure Input where
  chars : List Char
  fault : Option YamlError := none
  heldBack : List Char := []
  reads : List Nat := []
  deriving Inhabited

/-- The most bytes one read takes, the bytes of a character cut short by the last read included. -/
def readSize : Nat := 512

/-- Reads the rest of a stream and decodes each read as a whole. `pending` holds the bytes of a
character cut short by the last read; the stream ends at a read that finds no bytes left. A fault
anywhere in a read keeps all of that read's characters from the scanner, since the reader decodes
a read before it hands out any of it; the characters before the fault are kept aside. -/
def readRest (enc : Encoding) : Nat → Array Char → Bytes → Bytes → Input
  | 0, acc, _, _ => ⟨acc.toList, none, [], []⟩
  | fuel + 1, acc, pending, input =>
    let eof := input.isEmpty
    let size := readSize - pending.length
    let d := enc.chars eof acc (pending ++ input.take size)
    match d.fault with
    | some e => ⟨acc.toList, some e, d.chars.toList.drop acc.size, []⟩
    | none =>
      if eof then ⟨d.chars.toList, none, [], []⟩
      else
        let more := readRest enc fuel d.chars d.left (input.drop size)
        { more with reads := (d.chars.size - acc.size) :: more.reads }

/-- The characters of a YAML byte stream as the reader hands them out. The first read decides
the encoding by the byte order mark at its start; a stream shorter than three bytes ends with
that read. -/
def decodeInput (bs : Bytes) : Input :=
  let first := bs.take readSize
  let eof := bs.length < 3
  let (enc, mark) : Encoding × Nat := match first with
    | 0xFF :: 0xFE :: _ => (.utf16 false, 2)
    | 0xFE :: 0xFF :: _ => (.utf16 true, 2)
    | 0xEF :: 0xBB :: 0xBF :: _ => (.utf8, 3)
    | _ => (.utf8, 0)
  let d := enc.chars eof #[] (first.drop mark)
  match d.fault with
  | some e => ⟨[], some e, d.chars.toList, []⟩
  | none =>
    if eof then ⟨d.chars.toList, none, [], [d.chars.size]⟩
    else
      let more := readRest enc (bs.length + 2) d.chars d.left (bs.drop readSize)
      { more with reads := d.chars.size :: more.reads }

end SoundControl.Yaml
