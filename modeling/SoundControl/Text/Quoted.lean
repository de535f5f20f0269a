import SoundControl.Text.Utf8
import SoundControl.Text.Printable

/-! # Quoted text

The quoted form of a byte string or of a single character, with escapes for what is not
printable and `\x` for each byte that is not part of well-formed UTF-8. -/

namespace SoundControl.Quoted

/-- The lowercase hex digit of a number below sixteen. -/
def hexDigit (n : Nat) : Char :=
  if n < 10 then Char.ofNat (0x30 + n) else Char.ofNat (0x57 + n)

/-- The last `count` hex digits of `n`, most significant first. -/
def hexDigits (count n : Nat) : List Char :=
  (List.range count).reverse.map fun i => hexDigit (n / Nat.pow 16 i % 16)

/-- A byte written as `\x` and two lowercase hex digits. -/
def byteEscape (b : Nat) : List Char := '\\' :: 'x' :: hexDigits 2 b

/-- How the scalar value `n` appears between two quote characters `q`. -/
def escape (q : Char) (n : Nat) : List Char :=
  if n = q.toNat ∨ n = 0x5C then ['\\', Char.ofNat n]
  else if Printable.isPrintable n then [Char.ofNat n]
  else if n = 0x07 then ['\\', 'a']
  else if n = 0x08 then ['\\', 'b']
  else if n = 0x0C then ['\\', 'f']
  else if n = 0x0A then ['\\', 'n']
  else if n = 0x0D then ['\\', 'r']
  else if n = 0x09 then ['\\', 't']
  else if n = 0x0B then ['\\', 'v']
  else if n < 0x20 ∨ n = 0x7F then byteEscape n
  else if n < 0x10000 then '\\' :: 'u' :: hexDigits 4 n
  else '\\' :: 'U' :: hexDigits 8 n

/-- How one piece of a byte string appears between double quotes. -/
def pieceEscape : Utf8.Piece → List Char
  | .scalar c => escape '"' c.toNat
  | .stray b => byteEscape b.toNat

/-- A byte string between double quotes. -/
def quote (bs : Bytes) : String :=
  String.ofList ('"' :: (Utf8.pieces bs).flatMap pieceEscape ++ ['"'])

/-- A text between double quotes. -/
def quoteString (s : String) : String := quote (Utf8.ofString s)

/-- A code point between single quotes; one that is no scalar value stands for U+FFFD. -/
def quoteCode (n : Nat) : String :=
  let n := if n < 0xD800 ∨ (0xE000 ≤ n ∧ n ≤ 0x10FFFF) then n else 0xFFFD
  String.ofList ('\'' :: escape '\'' n ++ ['\''])

end SoundControl.Quoted
