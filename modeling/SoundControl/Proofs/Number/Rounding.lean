import SoundControl.Number.Binary
import Mathlib

/-! # Rounding to a binary format

`BinaryFormat.round` sends every quotient in a value's rounding interval to the value's bits
(`round_eq_of_roundsTo`). -/

namespace SoundControl

/-! ## Powers as fractions -/

theorem powTwo_fst_pos (e : ℤ) : 0 < (powTwo e).1 := by
  simp [powTwo]

theorem powTwo_snd_pos (e : ℤ) : 0 < (powTwo e).2 := by
  simp [powTwo]

theorem powTwo_div (e : ℤ) : ((powTwo e).1 : ℚ) / (powTwo e).2 = 2 ^ e := by
  obtain ⟨n, rfl | rfl⟩ := Int.eq_nat_or_neg e
  · simp [powTwo]
  · simp [powTwo, zpow_neg]

/-- Comparing a quotient with a power of two as the code does, by cross-multiplying. -/
theorem le_div_iff_powTwo {num den : ℕ} (hd : 0 < den) (e : ℤ) :
    den * (powTwo e).1 ≤ num * (powTwo e).2 ↔ (2 : ℚ) ^ e ≤ num / den := by
  rw [← powTwo_div, div_le_div_iff₀ (by exact_mod_cast powTwo_snd_pos e) (by exact_mod_cast hd)]
  constructor
  · intro h
    exact_mod_cast (by linarith [h] : (powTwo e).1 * den ≤ num * (powTwo e).2)
  · intro h
    have h' : (powTwo e).1 * den ≤ num * (powTwo e).2 := by exact_mod_cast h
    linarith

/-- The quotient that rounding divides is the value scaled by `2^-e`. -/
theorem cast_div_powTwo {num den : ℕ} (e : ℤ) :
    ((num * (powTwo e).2 : ℕ) : ℚ) / ((den * (powTwo e).1 : ℕ) : ℚ) = (num / den : ℚ) / 2 ^ e := by
  rw [← powTwo_div]
  push_cast
  have h1 : ((powTwo e).1 : ℚ) ≠ 0 := by exact_mod_cast (powTwo_fst_pos e).ne'
  have h2 : ((powTwo e).2 : ℚ) ≠ 0 := by exact_mod_cast (powTwo_snd_pos e).ne'
  field_simp

theorem two_zpow_add_nat (e : ℤ) (k : ℕ) : (2 : ℚ) ^ (e + k) = 2 ^ k * 2 ^ e := by
  rw [zpow_add₀ two_ne_zero, zpow_natCast, mul_comm]

/-! ## Rounding a quotient to the nearest integer -/

/-- `a / b` rounds to `q` when `2a` lies within `b` of `2qb`, and at distance `b` only for an
even `q`. -/
theorem roundHalfEven_eq_of_le {a b q : ℕ} (hb : 0 < b) (hlo : 2 * q * b ≤ 2 * a + b)
    (hhi : 2 * a ≤ 2 * q * b + b)
    (hodd : q % 2 = 1 → 2 * q * b < 2 * a + b ∧ 2 * a < 2 * q * b + b) :
    roundHalfEven a b = q := by
  -- with `a = b * Q + R`, the integer `q` is `Q` or `Q + 1`
  unfold roundHalfEven
  have hdiv := Nat.div_add_mod a b
  have hmod := Nat.mod_lt a hb
  set Q := a / b
  set R := a % b
  have hQ : Q ≤ q := by
    by_contra h
    have h := Nat.lt_of_not_le h
    nlinarith
  have hQ' : q ≤ Q + 1 := by
    by_contra h
    have h := Nat.lt_of_not_le h
    nlinarith
  rcases Nat.eq_or_lt_of_le hQ with hq | hq
  · -- `q = Q`: the remainder is at most half of `b`, and not half when `Q` is odd
    subst hq
    rw [if_neg]
    rintro (h | ⟨h, hQodd⟩)
    · nlinarith
    · have := (hodd hQodd).2
      nlinarith
  · -- `q = Q + 1`: the remainder is at least half of `b`, and not half when `Q` is even
    have hq' : q = Q + 1 := by omega
    subst hq'
    rw [if_pos]
    by_cases h2 : 2 * R = b
    · right
      refine ⟨h2, ?_⟩
      by_contra hQodd
      have := (hodd (by omega)).1
      nlinarith
    · left
      have : b ≤ 2 * R := by nlinarith
      omega

/-- A quotient within half a unit of `q` rounds to `q`; at exactly half a unit only when `q` is
even. -/
theorem roundHalfEven_eq {a b q : ℕ} (hb : 0 < b) (hlo : (q : ℚ) - 1 / 2 ≤ a / b)
    (hhi : (a / b : ℚ) ≤ q + 1 / 2)
    (hodd : q % 2 = 1 → (q : ℚ) - 1 / 2 < a / b ∧ (a / b : ℚ) < q + 1 / 2) :
    roundHalfEven a b = q := by
  have hbq : (0 : ℚ) < b := by exact_mod_cast hb
  apply roundHalfEven_eq_of_le hb
  · rw [le_div_iff₀ hbq] at hlo
    exact_mod_cast (by linarith : (2 * q * b : ℚ) ≤ 2 * a + b)
  · rw [div_le_iff₀ hbq] at hhi
    exact_mod_cast (by linarith : (2 * a : ℚ) ≤ 2 * q * b + b)
  · intro h
    obtain ⟨h1, h2⟩ := hodd h
    rw [lt_div_iff₀ hbq] at h1
    rw [div_lt_iff₀ hbq] at h2
    constructor
    · exact_mod_cast (by linarith : (2 * q * b : ℚ) < 2 * a + b)
    · exact_mod_cast (by linarith : (2 * a : ℚ) < 2 * q * b + b)

/-! ## The binary logarithm of a quotient -/

theorem floorLog2_spec {num den : ℕ} (hn : 0 < num) (hd : 0 < den) :
    (2 : ℚ) ^ floorLog2 num den ≤ num / den ∧ (num / den : ℚ) < 2 ^ (floorLog2 num den + 1) := by
  have hn1 : (2 : ℚ) ^ num.log2 ≤ num := by exact_mod_cast Nat.log2_self_le hn.ne'
  have hn2 : (num : ℚ) < 2 ^ (num.log2 + 1) := by exact_mod_cast Nat.lt_log2_self
  have hd1 : (2 : ℚ) ^ den.log2 ≤ den := by exact_mod_cast Nat.log2_self_le hd.ne'
  have hd2 : (den : ℚ) < 2 ^ (den.log2 + 1) := by exact_mod_cast Nat.lt_log2_self
  have hdq : (0 : ℚ) < den := by exact_mod_cast hd
  set t : ℤ := (num.log2 : ℤ) - den.log2
  -- the quotient lies strictly between `2^(t-1)` and `2^(t+1)`
  have hlo : (2 : ℚ) ^ (t - 1) < num / den := by
    have h : (2 : ℚ) ^ (t - 1) * 2 ^ (den.log2 + 1) = 2 ^ num.log2 := by
      rw [← zpow_natCast, ← zpow_add₀ two_ne_zero, ← zpow_natCast]
      congr 1
      push_cast
      ring
    rw [lt_div_iff₀ hdq]
    nlinarith [zpow_pos (two_pos : (0 : ℚ) < 2) (t - 1)]
  have hhi : (num / den : ℚ) < 2 ^ (t + 1) := by
    have h : (2 : ℚ) ^ (t + 1) * 2 ^ den.log2 = 2 ^ (num.log2 + 1) := by
      rw [← zpow_natCast, ← zpow_add₀ two_ne_zero, ← zpow_natCast]
      congr 1
      push_cast
      ring
    rw [div_lt_iff₀ hdq]
    nlinarith [zpow_pos (two_pos : (0 : ℚ) < 2) (t + 1)]
  unfold floorLog2
  simp only
  split_ifs with h
  · exact ⟨(le_div_iff_powTwo hd t).mp h, hhi⟩
  · refine ⟨hlo.le, ?_⟩
    rw [sub_add_cancel]
    exact lt_of_not_ge (fun h' => h ((le_div_iff_powTwo hd t).mpr h'))

/-! ## The rounding interval of a value -/

namespace BinaryFormat

/-- The bits below the sign of the positive value `m · 2^e`: the exponent field, then the
fraction field, which carries the leading bit of `m` into the exponent field for a normal
value. -/
def magnitude (f : BinaryFormat) (m : ℕ) (e : ℤ) : ℕ :=
  (e - f.minExponent).toNat * 2 ^ f.fractionBits + m

/-- `m · 2^e` is a positive finite value of `f` in the form that `classify` reads: a significand
of at most `fractionBits + 1` bits whose top bit is set unless the value is subnormal, and an
exponent field below the top one. -/
structure IsValue (f : BinaryFormat) (m : ℕ) (e : ℤ) : Prop where
  pos : 0 < m
  lt_two_pow : m < 2 ^ (f.fractionBits + 1)
  normal : 2 ^ f.fractionBits ≤ m ∨ e = f.minExponent
  minExponent_le : f.minExponent ≤ e
  magnitude_lt : f.magnitude m e < f.topExponent * 2 ^ f.fractionBits

/-- The lower end of the rounding interval of `m · 2^e`, in quarters of `2^e`: half-way to the
neighbour below, which is only half a unit away when `m` starts a binade above the subnormal
one. -/
def lowerQuarters (f : BinaryFormat) (m : ℕ) (e : ℤ) : ℕ :=
  if m = Nat.pow 2 f.fractionBits ∧ e > f.minExponent then 4 * m - 1 else 4 * m - 2

/-- `x` rounds to the positive value `m · 2^e` of `f`: it lies between the lower end and
`4m + 2` quarters of `2^e`, ends included only when `m` is even. -/
structure RoundsTo (f : BinaryFormat) (m : ℕ) (e : ℤ) (x : ℚ) : Prop where
  lower_le : (f.lowerQuarters m e : ℚ) * 2 ^ (e - 2) ≤ x
  le_upper : x ≤ (4 * m + 2 : ℚ) * 2 ^ (e - 2)
  strict_of_odd : m % 2 = 1 →
    (f.lowerQuarters m e : ℚ) * 2 ^ (e - 2) < x ∧ x < (4 * m + 2 : ℚ) * 2 ^ (e - 2)

theorem roundMagnitude_of_ne_zero (f : BinaryFormat) {num den : ℕ} (hn : num ≠ 0) :
    f.roundMagnitude num den =
      let e := max (floorLog2 num den - f.fractionBits) f.minExponent
      let bits := (e - f.minExponent).toNat * 2 ^ f.fractionBits +
        roundHalfEven (num * (powTwo e).2) (den * (powTwo e).1)
      if bits ≥ f.topExponent * 2 ^ f.fractionBits then f.topExponent * 2 ^ f.fractionBits
      else bits := by
  rw [roundMagnitude, if_neg hn]
  rfl

theorem lowerQuarters_ge (f : BinaryFormat) {m : ℕ} (e : ℤ) (hm : 0 < m) :
    (4 * m - 2 : ℚ) ≤ f.lowerQuarters m e := by
  unfold lowerQuarters
  split_ifs
  · rw [Nat.cast_sub (by omega)]
    push_cast
    linarith
  · rw [Nat.cast_sub (by omega)]
    push_cast
    rfl

theorem lowerQuarters_le (f : BinaryFormat) {m : ℕ} (e : ℤ) (hm : 0 < m) :
    (f.lowerQuarters m e : ℚ) ≤ 4 * m - 1 := by
  unfold lowerQuarters
  split_ifs
  · rw [Nat.cast_sub (by omega)]
    push_cast
    rfl
  · rw [Nat.cast_sub (by omega)]
    push_cast
    linarith

/-- The interval as two comparisons, each end included only when `m` is even. -/
theorem roundsTo_iff (f : BinaryFormat) {m : ℕ} {e : ℤ} {x : ℚ} :
    f.RoundsTo m e x ↔
      ((f.lowerQuarters m e : ℚ) * 2 ^ (e - 2) < x ∨
          m % 2 = 0 ∧ x = (f.lowerQuarters m e : ℚ) * 2 ^ (e - 2)) ∧
        (x < (4 * m + 2 : ℚ) * 2 ^ (e - 2) ∨ m % 2 = 0 ∧ x = (4 * m + 2 : ℚ) * 2 ^ (e - 2)) := by
  constructor
  · rintro ⟨hlo, hhi, hodd⟩
    rcases Nat.mod_two_eq_zero_or_one m with h | h
    · exact ⟨(lt_or_eq_of_le hlo).imp id fun h' => ⟨h, h'.symm⟩,
        (lt_or_eq_of_le hhi).imp id fun h' => ⟨h, h'⟩⟩
    · obtain ⟨h1, h2⟩ := hodd h
      exact ⟨.inl h1, .inl h2⟩
  · rintro ⟨hlo, hhi⟩
    refine ⟨?_, ?_, fun hodd => ⟨?_, ?_⟩⟩
    · rcases hlo with h | ⟨_, h⟩
      · exact h.le
      · exact h.ge
    · rcases hhi with h | ⟨_, h⟩
      · exact h.le
      · exact h.le
    · rcases hlo with h | ⟨h, _⟩
      · exact h
      · omega
    · rcases hhi with h | ⟨h, _⟩
      · exact h
      · omega

/-! ## Where rounding puts the interval -/

namespace RoundsTo

variable {f : BinaryFormat} {m : ℕ} {e : ℤ} {x : ℚ}

theorem pos (hm : 0 < m) (hx : f.RoundsTo m e x) : 0 < x := by
  have hlow := f.lowerQuarters_ge e hm
  have hm1 : (1 : ℚ) ≤ m := by exact_mod_cast hm
  exact lt_of_lt_of_le (by nlinarith [zpow_pos (two_pos : (0 : ℚ) < 2) (e - 2)]) hx.lower_le

/-- The interval lies below the next binade. -/
theorem lt_two_zpow (hv : f.IsValue m e) (hx : f.RoundsTo m e x) :
    x < 2 ^ (e + f.fractionBits + 1) := by
  have hmP : (m : ℚ) + 1 ≤ 2 ^ (f.fractionBits + 1) := by exact_mod_cast hv.lt_two_pow
  calc x ≤ (4 * m + 2) * 2 ^ (e - 2) := hx.le_upper
    _ < 2 ^ (f.fractionBits + 3) * 2 ^ (e - 2) := by
      apply mul_lt_mul_of_pos_right _ (zpow_pos two_pos _)
      have : (2 : ℚ) ^ (f.fractionBits + 3) = 2 ^ (f.fractionBits + 1) * 4 := by ring
      linarith
    _ = 2 ^ (e + f.fractionBits + 1) := by
      rw [← two_zpow_add_nat]
      congr 1
      push_cast
      ring

/-- At the value's own exponent, the scaled quotient rounds to the significand. -/
theorem roundHalfEven_own (hm : 0 < m) {num den : ℕ} (hd : 0 < den)
    (hx : f.RoundsTo m e (num / den)) :
    roundHalfEven (num * (powTwo e).2) (den * (powTwo e).1) = m := by
  have hu : (0 : ℚ) < 2 ^ (e - 2) := zpow_pos two_pos _
  have h4 : (2 : ℚ) ^ e = 4 * 2 ^ (e - 2) := by
    have h := two_zpow_add_nat (e - 2) 2
    rw [show e - 2 + ((2 : ℕ) : ℤ) = e by omega] at h
    rw [h]
    norm_num
  have hlow := f.lowerQuarters_ge e hm
  apply roundHalfEven_eq (Nat.mul_pos hd (powTwo_fst_pos e))
  · rw [cast_div_powTwo, h4, le_div_iff₀ (by positivity)]
    nlinarith [hx.lower_le]
  · rw [cast_div_powTwo, h4, div_le_iff₀ (by positivity)]
    nlinarith [hx.le_upper]
  · intro hodd
    obtain ⟨h1, h2⟩ := hx.strict_of_odd hodd
    rw [cast_div_powTwo, h4, lt_div_iff₀ (by positivity), div_lt_iff₀ (by positivity)]
    constructor <;> nlinarith

/-- A normal value whose interval reaches below its own binade starts that binade. -/
theorem eq_two_pow_of_lt (hv : f.IsValue m e) (hmin : f.minExponent < e) (hx : f.RoundsTo m e x)
    (hlt : x < 2 ^ (e + f.fractionBits)) : m = 2 ^ f.fractionBits := by
  have hle : m ≤ 2 ^ f.fractionBits := by
    by_contra h
    have h' : (2 : ℚ) ^ f.fractionBits + 1 ≤ m := by exact_mod_cast Nat.lt_of_not_le h
    have hbin : (2 : ℚ) ^ (e + f.fractionBits) = 2 ^ f.fractionBits * 4 * 2 ^ (e - 2) := by
      rw [show e + f.fractionBits = e - 2 + ((f.fractionBits + 2 : ℕ) : ℤ) by push_cast; ring,
        two_zpow_add_nat, pow_add]
      norm_num
    nlinarith [hx.lower_le, f.lowerQuarters_ge e hv.pos, zpow_pos (two_pos : (0 : ℚ) < 2) (e - 2)]
  rcases hv.normal with h | h
  · omega
  · omega

theorem lowerQuarters_of_eq_two_pow (hm : m = 2 ^ f.fractionBits) (hmin : f.minExponent < e) :
    (f.lowerQuarters m e : ℚ) = 4 * m - 1 := by
  have hpos : 0 < m := hm ▸ Nat.two_pow_pos _
  unfold lowerQuarters
  rw [if_pos ⟨by rw [hm, Nat.pow_eq], hmin⟩, Nat.cast_sub (by omega)]
  push_cast
  rfl

/-- The interval of a value that starts a binade above the least one lies above the binade
below. -/
theorem two_zpow_lt_of_eq_two_pow (hm : m = 2 ^ f.fractionBits) (hmin : f.minExponent < e)
    (hx : f.RoundsTo m e x) : 2 ^ (e + f.fractionBits - 1) < x := by
  have hm' : (m : ℚ) = 2 ^ f.fractionBits := by exact_mod_cast hm
  have hm1 : (1 : ℚ) ≤ m := by exact_mod_cast (hm ▸ Nat.two_pow_pos _ : 0 < m)
  calc (2 : ℚ) ^ (e + f.fractionBits - 1) = 2 ^ (f.fractionBits + 1) * 2 ^ (e - 2) := by
        rw [← two_zpow_add_nat]
        congr 1
        push_cast
        ring
    _ < (4 * m - 1) * 2 ^ (e - 2) := by
        apply mul_lt_mul_of_pos_right _ (zpow_pos two_pos _)
        rw [pow_succ, ← hm']
        linarith
    _ ≤ x := lowerQuarters_of_eq_two_pow hm hmin ▸ hx.lower_le

/-- Below the binade that `m` starts, the quotient rounds to `2m` at the exponent `e - 1`. -/
theorem roundHalfEven_binade_below (hm : m = 2 ^ f.fractionBits) (hmin : f.minExponent < e)
    {num den : ℕ} (hd : 0 < den) (hx : f.RoundsTo m e (num / den))
    (hlt : (num / den : ℚ) < 2 ^ (e + f.fractionBits)) :
    roundHalfEven (num * (powTwo (e - 1)).2) (den * (powTwo (e - 1)).1) = 2 * m := by
  have hm' : (m : ℚ) = 2 ^ f.fractionBits := by exact_mod_cast hm
  have h2 : (2 : ℚ) ^ (e - 1) = 2 * 2 ^ (e - 2) := by
    rw [show e - 1 = e - 2 + ((1 : ℕ) : ℤ) by omega, two_zpow_add_nat]
    norm_num
  have hbin : (2 : ℚ) ^ (e + f.fractionBits) = 4 * m * 2 ^ (e - 2) := by
    rw [show e + f.fractionBits = e - 2 + ((f.fractionBits + 2 : ℕ) : ℤ) by push_cast; ring,
      two_zpow_add_nat, pow_add, hm']
    ring
  have hlow := lowerQuarters_of_eq_two_pow hm hmin ▸ hx.lower_le
  apply roundHalfEven_eq (Nat.mul_pos hd (powTwo_fst_pos (e - 1)))
  · rw [cast_div_powTwo, h2, le_div_iff₀ (by positivity)]
    push_cast
    nlinarith
  · rw [cast_div_powTwo, h2, div_le_iff₀ (by positivity)]
    push_cast
    nlinarith
  · intro hodd
    omega

end RoundsTo

/-- Every quotient in the rounding interval of a value rounds to the value's bits. -/
theorem roundMagnitude_eq_magnitude (f : BinaryFormat) {m : ℕ} {e : ℤ} {num den : ℕ}
    (hv : f.IsValue m e) (hd : 0 < den) (hx : f.RoundsTo m e (num / den)) :
    f.roundMagnitude num den = f.magnitude m e := by
  have hn : 0 < num := by
    rcases Nat.eq_zero_or_pos num with h | h
    · have h0 := hx.pos hv.pos
      simp [h] at h0
    · exact h
  obtain ⟨ht1, ht2⟩ := floorLog2_spec hn hd
  -- the binade of the quotient is at most that of the value
  have ht : floorLog2 num den ≤ e + f.fractionBits := by
    have h := (zpow_lt_zpow_iff_right₀ (by norm_num : (1 : ℚ) < 2)).mp
      (lt_of_le_of_lt ht1 (hx.lt_two_zpow hv))
    omega
  have hmaglt := hv.magnitude_lt
  unfold magnitude at hmaglt ⊢
  rw [roundMagnitude_of_ne_zero f hn.ne']
  simp only
  rcases eq_or_lt_of_le (max_le (by omega) hv.minExponent_le :
      max (floorLog2 num den - f.fractionBits) f.minExponent ≤ e) with he | he
  · -- rounding picks the value's own exponent
    rw [he, hx.roundHalfEven_own hv.pos hd, if_neg (not_le.mpr hmaglt)]
  · -- the quotient lies just below the value's binade, which `m` starts, and rounding picks the
    -- exponent below
    have hmin : f.minExponent < e := lt_of_le_of_lt (le_max_right _ _) he
    have hlt : (num / den : ℚ) < 2 ^ (e + f.fractionBits) :=
      lt_of_lt_of_le ht2 (zpow_le_zpow_right₀ (by norm_num) (by omega))
    have hm := hx.eq_two_pow_of_lt hv hmin hlt
    have ht' : e + f.fractionBits - 1 ≤ floorLog2 num den := by
      have h := (zpow_lt_zpow_iff_right₀ (by norm_num : (1 : ℚ) < 2)).mp
        (lt_trans (hx.two_zpow_lt_of_eq_two_pow hm hmin) ht2)
      omega
    have he' : max (floorLog2 num den - f.fractionBits) f.minExponent = e - 1 := by omega
    have hbits : (e - 1 - f.minExponent).toNat * 2 ^ f.fractionBits + 2 * m =
        (e - f.minExponent).toNat * 2 ^ f.fractionBits + m := by
      rw [show (e - f.minExponent).toNat = (e - 1 - f.minExponent).toNat + 1 by omega, hm]
      ring
    rw [he', hx.roundHalfEven_binade_below hm hmin hd hlt, hbits, if_neg (not_le.mpr hmaglt)]

/-! ## Bit patterns -/

theorem signBit_eq (f : BinaryFormat) :
    f.signBit = 2 ^ f.fractionBits * 2 ^ f.exponentBits := by
  simp [signBit, Nat.pow_eq, pow_add]

/-- A pattern is its sign bit, then the exponent field, then the fraction field. -/
theorem eq_sign_add_fields (f : BinaryFormat) {bits : ℕ} (hb : bits < 2 * f.signBit) :
    bits = (if (bits / f.signBit % 2 == 1) = true then f.signBit else 0) +
      (bits / 2 ^ f.fractionBits % 2 ^ f.exponentBits * 2 ^ f.fractionBits +
        bits % 2 ^ f.fractionBits) := by
  have hmod : bits % f.signBit = bits / 2 ^ f.fractionBits % 2 ^ f.exponentBits *
      2 ^ f.fractionBits + bits % 2 ^ f.fractionBits := by
    rw [f.signBit_eq, Nat.mod_mul]
    ring
  have hsign : (if (bits / f.signBit % 2 == 1) = true then f.signBit else 0) =
      bits / f.signBit % 2 * f.signBit := by
    rcases Nat.mod_two_eq_zero_or_one (bits / f.signBit) with h0 | h1
    · simp [h0]
    · simp [h1]
  have h2 : bits / f.signBit < 2 := Nat.div_lt_of_lt_mul (by rw [mul_comm]; exact hb)
  rw [hsign, ← hmod, Nat.mod_eq_of_lt h2]
  exact (Nat.div_add_mod' bits f.signBit).symm

/-- What a finite bit pattern stands for: its sign and magnitude make up the pattern, and a
nonzero one is a value in canonical form. -/
theorem classify_eq_finite (f : BinaryFormat) {bits m : ℕ} {neg : Bool} {e : ℤ}
    (hb : bits < 2 * f.signBit) (h : f.classify bits = .finite neg m e) :
    bits = (if neg then f.signBit else 0) + f.magnitude m e ∧ (0 < m → f.IsValue m e) ∧
      (m = 0 → e = f.minExponent) := by
  have hfields := f.eq_sign_add_fields hb
  have hP : 0 < 2 ^ f.fractionBits := Nat.two_pow_pos _
  have hF : bits % 2 ^ f.fractionBits < 2 ^ f.fractionBits := Nat.mod_lt _ hP
  have hB : bits / 2 ^ f.fractionBits % 2 ^ f.exponentBits < 2 ^ f.exponentBits :=
    Nat.mod_lt _ (Nat.two_pow_pos _)
  have htop : f.topExponent = 2 ^ f.exponentBits - 1 := by simp [topExponent, Nat.pow_eq]
  unfold classify at h
  simp only [Nat.pow_eq] at h
  split_ifs at h with h1 h2 h3 <;> injection h with hneg hm' he <;> subst hneg hm' he <;>
    simp only [beq_iff_eq] at h1 h3
  · -- subnormal: the exponent field is zero and `m` is the fraction field
    refine ⟨?_, fun hm => ⟨hm, by rw [pow_succ]; omega, .inr rfl, le_refl _, ?_⟩, fun _ => rfl⟩
    · simp only [magnitude, sub_self, Int.toNat_zero, zero_mul, zero_add]
      rw [h3, zero_mul, zero_add] at hfields
      exact hfields
    · simp only [magnitude, sub_self, Int.toNat_zero, zero_mul, zero_add, htop]
      calc bits % 2 ^ f.fractionBits < 2 ^ f.fractionBits := hF
        _ ≤ (2 ^ f.exponentBits - 1) * 2 ^ f.fractionBits :=
          Nat.le_mul_of_pos_left _ (by omega)
  · -- normal: the exponent field `B` is neither zero nor the top one
    set B := bits / 2 ^ f.fractionBits % 2 ^ f.exponentBits
    have hexp : (f.minExponent + B - 1 - f.minExponent).toNat = B - 1 := by omega
    have hBP : 2 ^ f.fractionBits ≤ B * 2 ^ f.fractionBits := Nat.le_mul_of_pos_left _ (by omega)
    refine ⟨?_, fun hm => ⟨hm, by rw [pow_succ]; omega, .inl (by omega), by omega, ?_⟩,
      fun h0 => by omega⟩
    · simp only [magnitude, hexp]
      rw [Nat.sub_mul, one_mul]
      omega
    · simp only [magnitude, hexp, htop]
      have : B + 1 ≤ 2 ^ f.exponentBits - 1 := by omega
      calc (B - 1) * 2 ^ f.fractionBits + (bits % 2 ^ f.fractionBits + 2 ^ f.fractionBits)
          = B * 2 ^ f.fractionBits + bits % 2 ^ f.fractionBits := by
            rw [Nat.sub_mul, one_mul]
            omega
        _ < (B + 1) * 2 ^ f.fractionBits := by rw [add_mul, one_mul]; omega
        _ ≤ (2 ^ f.exponentBits - 1) * 2 ^ f.fractionBits := Nat.mul_le_mul_right _ this

/-- An infinite pattern is the infinity of its sign. -/
theorem classify_eq_infinite (f : BinaryFormat) {bits : ℕ} {neg : Bool}
    (hb : bits < 2 * f.signBit) (h : f.classify bits = .infinite neg) :
    bits = f.infinity neg := by
  have hfields := f.eq_sign_add_fields hb
  unfold classify at h
  simp only [Nat.pow_eq] at h
  split_ifs at h with h1 h2
  injection h with hneg
  subst hneg
  simp only [beq_iff_eq] at h1 h2
  rw [h1, h2, Nat.add_zero] at hfields
  rw [infinity, Nat.pow_eq]
  exact hfields

/-- Rounding a quotient in the rounding interval of a finite nonzero pattern's value, with the
pattern's sign, gives back the pattern. -/
theorem round_eq_of_roundsTo (f : BinaryFormat) {bits m num den : ℕ} {neg : Bool} {e : ℤ}
    (hb : bits < 2 * f.signBit) (h : f.classify bits = .finite neg m e) (hm : 0 < m)
    (hd : 0 < den) (hx : f.RoundsTo m e (num / den)) :
    f.round neg num den = bits := by
  obtain ⟨hbits, hv, -⟩ := f.classify_eq_finite hb h
  rw [round, f.roundMagnitude_eq_magnitude (hv hm) hd hx, hbits]

end BinaryFormat

end SoundControl
