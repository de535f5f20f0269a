/-! # Bytes

Byte strings and the big-endian words that the wire format is made of. A word of `n` bytes is
written most significant byte first; `word32` and `word64` read such a word back. -/

namespace SoundControl

/-- A byte string. -/
abbrev Bytes := List UInt8

namespace Bytes

/-- The four bytes of a 32-bit word, most significant first. -/
def ofWord32 (w : UInt32) : Bytes :=
  [(w >>> 24).toUInt8, (w >>> 16).toUInt8, (w >>> 8).toUInt8, w.toUInt8]

/-- The eight bytes of a 64-bit word, most significant first. -/
def ofWord64 (w : UInt64) : Bytes :=
  ofWord32 (w >>> 32).toUInt32 ++ ofWord32 w.toUInt32

/-- The 32-bit word whose bytes, most significant first, are `a`, `b`, `c` and `d`. -/
def word32 (a b c d : UInt8) : UInt32 :=
  (a.toUInt32 <<< 24) ||| (b.toUInt32 <<< 16) ||| (c.toUInt32 <<< 8) ||| d.toUInt32

/-- The 64-bit word whose high half is `hi` and whose low half is `lo`. -/
def word64 (hi lo : UInt32) : UInt64 :=
  (hi.toUInt64 <<< 32) ||| lo.toUInt64

/-- `n` zero bytes. -/
def zeros (n : Nat) : Bytes := List.replicate n 0

/-- The number of zero bytes that bring a region of `n` bytes to a multiple of four. -/
def padding (n : Nat) : Nat := (4 - n % 4) % 4

@[simp] theorem ofWord32_length (w : UInt32) : (ofWord32 w).length = 4 := rfl

@[simp] theorem ofWord64_length (w : UInt64) : (ofWord64 w).length = 8 := rfl

@[simp] theorem zeros_length (n : Nat) : (zeros n).length = n := List.length_replicate

theorem padding_lt (n : Nat) : padding n < 4 := Nat.mod_lt _ (by decide)

theorem padding_add_mod (n : Nat) : (n + padding n) % 4 = 0 := by
  unfold padding; omega

end Bytes

end SoundControl
