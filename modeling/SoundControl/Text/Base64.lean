import SoundControl.Bytes

/-! # Base64

Bytes as text in the standard base64 alphabet, and the reading back, which skips line breaks. -/

namespace SoundControl.Base64

/-- The character of a six-bit value. -/
def digit (n : Nat) : Char :=
  if n < 26 then Char.ofNat (65 + n)
  else if n < 52 then Char.ofNat (71 + n)
  else if n < 62 then Char.ofNat (n - 4)
  else if n = 62 then '+'
  else '/'

/-- The six-bit value of a character of the alphabet. -/
def value? (c : Char) : Option Nat :=
  if 'A' ≤ c ∧ c ≤ 'Z' then some (c.toNat - 65)
  else if 'a' ≤ c ∧ c ≤ 'z' then some (c.toNat - 71)
  else if '0' ≤ c ∧ c ≤ '9' then some (c.toNat + 4)
  else if c = '+' then some 62
  else if c = '/' then some 63
  else none

/-- The text of a byte string. -/
def encode : Bytes → List Char
  | a :: b :: c :: rest =>
    let n := a.toNat * 65536 + b.toNat * 256 + c.toNat
    digit (n / 262144) :: digit (n / 4096 % 64) :: digit (n / 64 % 64) :: digit (n % 64) ::
      encode rest
  | [a, b] =>
    let n := a.toNat * 65536 + b.toNat * 256
    [digit (n / 262144), digit (n / 4096 % 64), digit (n / 64 % 64), '=']
  | [a] =>
    let n := a.toNat * 65536
    [digit (n / 262144), digit (n / 4096 % 64), '=', '=']
  | [] => []

/-- Reads groups of four characters, line breaks already removed. -/
def groups : List Char → Option Bytes
  | [] => some []
  | a :: b :: c :: d :: rest =>
    match value? a, value? b with
    | some va, some vb =>
      match c, d, rest with
      | '=', '=', [] => some [(va * 4 + vb / 16).toUInt8]
      | _, '=', [] =>
        (value? c).map fun vc => [(va * 4 + vb / 16).toUInt8, (vb % 16 * 16 + vc / 4).toUInt8]
      | _, _, _ =>
        match value? c, value? d with
        | some vc, some vd =>
          (groups rest).map fun more =>
            (va * 4 + vb / 16).toUInt8 :: (vb % 16 * 16 + vc / 4).toUInt8 ::
              (vc % 4 * 64 + vd).toUInt8 :: more
        | _, _ => none
    | _, _ => none
  | _ => none

/-- The bytes of base64 text, or `none` when it is no such text. -/
def decode (cs : List Char) : Option Bytes :=
  groups (cs.filter fun c => c ≠ '\r' ∧ c ≠ '\n')

end SoundControl.Base64
