import SoundControl.Bytes

/-! # UTF-8

Reading byte strings as UTF-8 text, piece by piece: the encoding of one scalar value, or a single
stray byte. -/

namespace SoundControl.Utf8

/-- A continuation byte has the bit pattern `10xxxxxx`. -/
def isContinuation (b : UInt8) : Bool := b &&& 0xC0 == 0x80

/-- The low six bits of a continuation byte. -/
def payload (b : UInt8) : Nat := (b &&& 0x3F).toNat

/-- The scalar value whose well-formed encoding starts the byte string, and the length of that
encoding. The second byte of a three- or four-byte form is held to the range that excludes
overlong forms, surrogates and values above U+10FFFF. -/
def scalar? : Bytes → Option (Nat × Nat)
  | [] => none
  | b0 :: rest =>
    if b0 < 0x80 then some (b0.toNat, 1)
    else if b0 < 0xC2 then none
    else if b0 < 0xE0 then
      match rest with
      | b1 :: _ =>
        if isContinuation b1 then some ((b0.toNat % 0x20) * 0x40 + payload b1, 2) else none
      | [] => none
    else if b0 < 0xF0 then
      match rest with
      | b1 :: b2 :: _ =>
        let lo : UInt8 := if b0 == 0xE0 then 0xA0 else 0x80
        let hi : UInt8 := if b0 == 0xED then 0x9F else 0xBF
        if lo ≤ b1 && b1 ≤ hi && isContinuation b2 then
          some ((b0.toNat % 0x10) * 0x1000 + payload b1 * 0x40 + payload b2, 3)
        else none
      | _ => none
    else if b0 < 0xF5 then
      match rest with
      | b1 :: b2 :: b3 :: _ =>
        let lo : UInt8 := if b0 == 0xF0 then 0x90 else 0x80
        let hi : UInt8 := if b0 == 0xF4 then 0x8F else 0xBF
        if lo ≤ b1 && b1 ≤ hi && isContinuation b2 && isContinuation b3 then
          some ((b0.toNat % 0x08) * 0x40000 + payload b1 * 0x1000 + payload b2 * 0x40
            + payload b3, 4)
        else none
      | _ => none
    else none

/-- One piece of a byte string read as UTF-8. -/
inductive Piece where
  /-- The well-formed encoding of a scalar value. -/
  | scalar (c : Char)
  /-- A byte that starts no well-formed encoding. -/
  | stray (b : UInt8)
  deriving DecidableEq, Repr

/-- The pieces of a byte string, front to back. -/
def pieces (bs : Bytes) : List Piece :=
  match bs with
  | [] => []
  | b :: rest =>
    match scalar? (b :: rest) with
    | some (c, n) => .scalar (Char.ofNat c) :: pieces (rest.drop (n - 1))
    | none => .stray b :: pieces rest
termination_by bs.length
decreasing_by
  · simp only [List.length_drop, List.length_cons]; omega
  · simp

/-- A piece is text when it encodes a scalar value. -/
def Piece.isScalar : Piece → Bool
  | .scalar _ => true
  | .stray _ => false

/-- The character a piece reads as, U+FFFD for a stray byte. -/
def Piece.toChar : Piece → Char
  | .scalar c => c
  | .stray _ => '�'

/-- A byte string is valid UTF-8 when every piece is a scalar value. -/
def valid (bs : Bytes) : Bool := (pieces bs).all Piece.isScalar

/-- The text of a byte string, with U+FFFD in place of each stray byte. -/
def lossy (bs : Bytes) : String := String.ofList ((pieces bs).map Piece.toChar)

/-- The UTF-8 encoding of a scalar value. -/
def ofScalar (n : Nat) : Bytes :=
  if n < 0x80 then [n.toUInt8]
  else if n < 0x800 then [(0xC0 + n / 0x40).toUInt8, (0x80 + n % 0x40).toUInt8]
  else if n < 0x10000 then
    [(0xE0 + n / 0x1000).toUInt8, (0x80 + n / 0x40 % 0x40).toUInt8, (0x80 + n % 0x40).toUInt8]
  else
    [(0xF0 + n / 0x40000).toUInt8, (0x80 + n / 0x1000 % 0x40).toUInt8,
      (0x80 + n / 0x40 % 0x40).toUInt8, (0x80 + n % 0x40).toUInt8]

/-- The UTF-8 encoding of a character. -/
def ofChar (c : Char) : Bytes := ofScalar c.toNat

/-- The UTF-8 encoding of a text. -/
def ofString (s : String) : Bytes := s.toList.flatMap ofChar

end SoundControl.Utf8
