/-! # Binary floating-point formats

The IEEE 754 binary interchange formats as bit patterns, and rounding a positive rational into a
format, a tie going to the even significand. -/

namespace SoundControl

/-- A binary interchange format, given by the widths of its fraction and exponent fields. -/
structure BinaryFormat where
  fractionBits : Nat
  exponentBits : Nat

namespace BinaryFormat

/-- Single precision: 23 fraction bits, 8 exponent bits. -/
def single : BinaryFormat := ⟨23, 8⟩

/-- Double precision: 52 fraction bits, 11 exponent bits. -/
def double : BinaryFormat := ⟨52, 11⟩

/-- Half precision: 10 fraction bits, 5 exponent bits. -/
def half : BinaryFormat := ⟨10, 5⟩

/-- The exponent bias. -/
def bias (f : BinaryFormat) : Nat := Nat.pow 2 (f.exponentBits - 1) - 1

/-- The all-ones exponent field, which marks infinities and NaNs. -/
def topExponent (f : BinaryFormat) : Nat := Nat.pow 2 f.exponentBits - 1

/-- The weight of the last fraction bit of a subnormal. -/
def minExponent (f : BinaryFormat) : Int := 1 - (f.bias : Int) - f.fractionBits

/-- The position of the sign bit. -/
def signBit (f : BinaryFormat) : Nat := Nat.pow 2 (f.fractionBits + f.exponentBits)

/-- The bits of an infinity of the given sign. -/
def infinity (f : BinaryFormat) (neg : Bool) : Nat :=
  (if neg then f.signBit else 0) + f.topExponent * Nat.pow 2 f.fractionBits

end BinaryFormat

/-- What a bit pattern of a binary format stands for. -/
inductive BinaryValue where
  /-- The value `(-1)^neg · m · 2^e`; zero when `m = 0`. -/
  | finite (neg : Bool) (m : Nat) (e : Int)
  | infinite (neg : Bool)
  /-- A NaN with its fraction field. -/
  | nan (neg : Bool) (payload : Nat)

namespace BinaryFormat

/-- Reads a bit pattern of the format. -/
def classify (f : BinaryFormat) (bits : Nat) : BinaryValue :=
  let neg := bits / f.signBit % 2 == 1
  let fraction := bits % Nat.pow 2 f.fractionBits
  let biased := bits / Nat.pow 2 f.fractionBits % Nat.pow 2 f.exponentBits
  if biased == f.topExponent then
    if fraction == 0 then .infinite neg else .nan neg fraction
  else if biased == 0 then .finite neg fraction f.minExponent
  else .finite neg (fraction + Nat.pow 2 f.fractionBits) (f.minExponent + biased - 1)

end BinaryFormat

/-- `2^e` as a fraction `(num, den)` of natural numbers. -/
def powTwo (e : Int) : Nat × Nat := (Nat.pow 2 e.toNat, Nat.pow 2 (-e).toNat)

/-- The quotient `a / b` rounded to the nearest integer, a tie going to the even one. -/
def roundHalfEven (a b : Nat) : Nat :=
  let q := a / b
  let r := a % b
  if 2 * r > b ∨ (2 * r = b ∧ q % 2 = 1) then q + 1 else q

/-- The exponent `t` with `2^t ≤ num / den < 2^(t+1)`, for positive `num` and `den`. -/
def floorLog2 (num den : Nat) : Int :=
  let t : Int := (Nat.log2 num : Int) - Nat.log2 den
  let (a, b) := powTwo t
  -- `num / den ≥ 2^t` exactly when `num · b ≥ den · a`
  if num * b ≥ den * a then t else t - 1

namespace BinaryFormat

/-- The magnitude bits (exponent and fraction fields) of `num / den` rounded to the format. -/
def roundMagnitude (f : BinaryFormat) (num den : Nat) : Nat :=
  if num = 0 then 0
  else
    let e := max (floorLog2 num den - f.fractionBits) f.minExponent
    let (a, b) := powTwo e
    -- the significand at weight `2^e`, at most `2^(fractionBits + 1)`
    let q := roundHalfEven (num * b) (den * a)
    let bits := (e - f.minExponent).toNat * Nat.pow 2 f.fractionBits + q
    if bits ≥ f.topExponent * Nat.pow 2 f.fractionBits then f.topExponent * Nat.pow 2 f.fractionBits
    else bits

/-- The bits of `(-1)^neg · num / den` rounded to the format. -/
def round (f : BinaryFormat) (neg : Bool) (num den : Nat) : Nat :=
  (if neg then f.signBit else 0) + f.roundMagnitude num den

/-- The bits of `(-1)^neg · digits · 10^exp` rounded to the format. Values with more than 400
decimal digits before the point are infinite and values below `10^-400` are zero in every format
used here, so those are settled without big powers. -/
def ofDecimal (f : BinaryFormat) (neg : Bool) (digits : Nat) (exp : Int) : Nat :=
  let width : Int := (Nat.toDigits 10 digits).length
  if digits = 0 then f.round neg 0 1
  else if width + exp > 400 then f.infinity neg
  else if width + exp < -400 then f.round neg 0 1
  else f.round neg (digits * Nat.pow 10 exp.toNat) (Nat.pow 10 (-exp).toNat)

/-- The double-precision bits of a value of a narrower format, which double precision holds
exactly; a NaN keeps its sign and its fraction field, set in the high bits. -/
def toDouble (f : BinaryFormat) (bits : Nat) : Nat :=
  match f.classify bits with
  | .finite neg m e =>
    let (num, den) := powTwo e
    double.round neg (m * num) den
  | .infinite neg => double.infinity neg
  | .nan neg payload =>
    double.infinity neg + payload * Nat.pow 2 (double.fractionBits - f.fractionBits)

end BinaryFormat

/-- A double-precision pattern narrowed to single precision. -/
def narrowDouble (bits : UInt64) : UInt32 :=
  match BinaryFormat.double.classify bits.toNat with
  | .nan neg payload =>
    ((if neg then 0x80000000 else 0) + (0x7FC00000 ||| payload / Nat.pow 2 29)).toUInt32
  | .infinite neg => (BinaryFormat.single.infinity neg).toUInt32
  | .finite neg m e =>
    let (a, b) := powTwo e
    (BinaryFormat.single.round neg (m * a) b).toUInt32

end SoundControl
