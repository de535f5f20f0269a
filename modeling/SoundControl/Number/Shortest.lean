import SoundControl.Number.Binary

/-! # Shortest decimal digits

The fewest decimal digits that read back as a given finite binary value, found by trying the
value's two neighbours on decimal grids of one digit, two, and so on. -/

namespace SoundControl

/-- A decimal `digits · 10^exponent`. -/
structure Decimal where
  digits : Nat
  exponent : Int
  deriving DecidableEq, Repr

/-- `10^k` as a fraction `(num, den)` of natural numbers. -/
def powTen (k : Int) : Nat × Nat := (Nat.pow 10 k.toNat, Nat.pow 10 (-k).toNat)

/-- Compares `a/b` with `c/d` for positive denominators. -/
def compareFrac (a b c d : Nat) : Ordering := compare (a * d) (c * b)

/-- The exponent `t` with `10^t ≤ num / den < 10^(t+1)`, for positive `num` and `den`: a first
guess from the binary logarithms, moved up or down a step at a time. -/
def floorLog10 (num den : Nat) : Int :=
  let guess : Int := ((Nat.log2 num : Int) - Nat.log2 den) * 30103 / 100000
  let rec adjust (fuel : Nat) (t : Int) : Int :=
    match fuel with
    | 0 => t
    | fuel + 1 =>
      let (a, b) := powTen t
      let (c, d) := powTen (t + 1)
      if compareFrac num den a b == .lt then adjust fuel (t - 1)
      else if compareFrac num den c d != .lt then adjust fuel (t + 1)
      else t
  adjust 8 guess

/-- Removes the trailing zeros of a decimal's digits. -/
def Decimal.trim (d : Decimal) : Decimal :=
  let rec go (fuel digits : Nat) (exponent : Int) : Decimal :=
    match fuel with
    | 0 => ⟨digits, exponent⟩
    | fuel + 1 =>
      if digits ≠ 0 ∧ digits % 10 = 0 then go fuel (digits / 10) (exponent + 1)
      else ⟨digits, exponent⟩
  go (Nat.toDigits 10 d.digits).length d.digits d.exponent

/-- The shortest decimal that rounds to the positive value `m · 2^e` of format `f`, trailing zeros
removed. -/
def shortestDecimal (f : BinaryFormat) (m : Nat) (e : Int) : Decimal :=
  -- in units of `2^(e-2)`: the value, and the ends of its rounding interval
  let value := 4 * m
  let upper := 4 * m + 2
  let lower := if m = Nat.pow 2 f.fractionBits ∧ e > f.minExponent then 4 * m - 1 else 4 * m - 2
  let inclusive := m % 2 = 0
  let (ua, ub) := powTwo (e - 2)
  let top := floorLog10 (value * ua) ub
  -- whether `c · 10^k` lies in the rounding interval
  let inside (c : Nat) (k : Int) : Bool :=
    let (ta, tb) := powTen k
    let lo := compareFrac (c * ta) tb (lower * ua) ub
    let hi := compareFrac (c * ta) tb (upper * ua) ub
    (lo == .gt || (inclusive && lo == .eq)) && (hi == .lt || (inclusive && hi == .eq))
  let rec search (fuel n : Nat) : Decimal :=
    match fuel with
    | 0 => ⟨m, 0⟩
    | fuel + 1 =>
      let k := top - n + 1
      let (ta, tb) := powTen k
      -- the value divided by `10^k`, as a fraction
      let num := value * ua * tb
      let den := ub * ta
      let down := num / den
      let up := down + 1
      let downIn := down ≠ 0 && inside down k
      let upIn := inside up k
      if downIn && upIn then
        -- the nearer one; a tie goes to the even digit string
        match compare (num - down * den) (up * den - num) with
        | .lt => (Decimal.mk down k).trim
        | .gt => (Decimal.mk up k).trim
        | .eq => (Decimal.mk (if down % 2 = 0 then down else up) k).trim
      else if downIn then (Decimal.mk down k).trim
      else if upIn then (Decimal.mk up k).trim
      else search fuel (n + 1)
  search 40 1

end SoundControl
