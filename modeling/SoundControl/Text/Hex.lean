import SoundControl.Text.Quoted

/-! # Hexadecimal text

Bytes written as two lowercase hex digits each, and the reading back, pair by pair. -/

namespace SoundControl.Hex

/-- The text of a byte string, two lowercase hex digits per byte. -/
def encode (bs : Bytes) : String :=
  String.ofList (bs.flatMap fun b => Quoted.hexDigits 2 b.toNat)

/-- The value of a hex digit of either case. -/
def digit? (b : UInt8) : Option Nat :=
  if 0x30 ≤ b ∧ b ≤ 0x39 then some (b.toNat - 0x30)
  else if 0x61 ≤ b ∧ b ≤ 0x66 then some (b.toNat - 0x57)
  else if 0x41 ≤ b ∧ b ≤ 0x46 then some (b.toNat - 0x37)
  else none

/-- Why hex text does not read as bytes. -/
inductive Error where
  /-- A character that is no hex digit. -/
  | invalidByte (b : UInt8)
  /-- An odd number of hex digits. -/
  | oddLength
  deriving DecidableEq, Repr

/-- A code point in the form `U+0078 'x'`: at least four uppercase hex digits, then the
character itself between single quotes when it is printable. -/
def codePointText (n : Nat) : String :=
  let digits := (Nat.toDigits 16 n).map Char.toUpper
  let padded := List.replicate (4 - digits.length) '0' ++ digits
  let shown := if Printable.isPrintable n then [' ', '\'', Char.ofNat n, '\''] else []
  String.ofList ('U' :: '+' :: padded ++ shown)

/-- The message of a hex reading error. -/
def Error.message : Error → String
  | .invalidByte b => "encoding/hex: invalid byte: " ++ codePointText b.toNat
  | .oddLength => "encoding/hex: odd length hex string"

/-- Reads hex text, two digits per byte. -/
def decode : Bytes → Except Error Bytes
  | [] => .ok []
  | [a] => if (digit? a).isSome then .error .oddLength else .error (.invalidByte a)
  | a :: b :: rest =>
    match digit? a, digit? b with
    | some x, some y => (decode rest).map fun tail => (x * 16 + y).toUInt8 :: tail
    | none, _ => .error (.invalidByte a)
    | some _, none => .error (.invalidByte b)

/-- Whether a code point is white space: the ASCII blanks, next line, no-break space, and the
spaces and separators of Unicode. -/
def isSpace (n : Nat) : Bool :=
  n = 0x20 || (0x09 ≤ n && n ≤ 0x0D) || n = 0x85 || n = 0xA0 || n = 0x1680 ||
    (0x2000 ≤ n && n ≤ 0x200A) || n = 0x2028 || n = 0x2029 || n = 0x202F || n = 0x205F ||
    n = 0x3000

/-- The bytes of a text without its white space; bytes that are not UTF-8 stay. -/
def dropSpaces (bs : Bytes) : Bytes :=
  (Utf8.pieces bs).flatMap fun
    | .scalar c => if isSpace c.toNat then [] else Utf8.ofChar c
    | .stray b => [b]

/-- Reads hex text after dropping its white space. -/
def decodeSpaced (bs : Bytes) : Except Error Bytes := decode (dropSpaces bs)

end SoundControl.Hex
