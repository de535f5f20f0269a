import SoundControl.Proofs.Number.Rounding
import SoundControl.Number.Shortest

/-! # The shortest decimal lies in the rounding interval

What `shortestDecimal` returns rounds back to the value (`shortestDecimal_roundsTo`), and for
single precision the search never runs out. -/

namespace SoundControl

/-- The value `digits · 10^exponent` of a decimal. -/
def Decimal.value (d : Decimal) : ℚ := d.digits * 10 ^ d.exponent

/-! ## Trailing zeros -/

theorem Decimal.trim_go_value (fuel digits : ℕ) (exponent : ℤ) :
    (Decimal.trim.go fuel digits exponent).value = (Decimal.mk digits exponent).value := by
  induction fuel generalizing digits exponent with
  | zero => rfl
  | succ fuel ih =>
    rw [Decimal.trim.go]
    split_ifs with h
    · -- dropping a trailing zero moves it into the exponent
      rw [ih]
      have hd : digits = digits / 10 * 10 :=
        (Nat.div_mul_cancel (Nat.dvd_of_mod_eq_zero h.2)).symm
      simp only [Decimal.value]
      rw [zpow_add₀ (by norm_num), zpow_one]
      conv_rhs => rw [hd]
      push_cast
      ring
    · rfl

@[simp] theorem Decimal.trim_value (d : Decimal) : d.trim.value = d.value :=
  Decimal.trim_go_value _ _ _

/-! ## Powers of ten and comparisons of fractions -/

theorem powTen_fst_pos (k : ℤ) : 0 < (powTen k).1 := by
  simp [powTen]

theorem powTen_snd_pos (k : ℤ) : 0 < (powTen k).2 := by
  simp [powTen]

theorem powTen_div (k : ℤ) : ((powTen k).1 : ℚ) / (powTen k).2 = 10 ^ k := by
  obtain ⟨n, rfl | rfl⟩ := Int.eq_nat_or_neg k
  · simp [powTen]
  · simp [powTen, zpow_neg]

theorem compareFrac_eq_lt_iff {a b c d : ℕ} (hb : 0 < b) (hd : 0 < d) :
    compareFrac a b c d = .lt ↔ (a / b : ℚ) < c / d := by
  rw [compareFrac, compare_lt_iff_lt, div_lt_div_iff₀ (by exact_mod_cast hb) (by exact_mod_cast hd)]
  norm_cast

theorem compareFrac_eq_gt_iff {a b c d : ℕ} (hb : 0 < b) (hd : 0 < d) :
    compareFrac a b c d = .gt ↔ (c / d : ℚ) < a / b := by
  rw [compareFrac, compare_gt_iff_gt, div_lt_div_iff₀ (by exact_mod_cast hd) (by exact_mod_cast hb)]
  norm_cast

theorem compareFrac_eq_eq_iff {a b c d : ℕ} (hb : 0 < b) (hd : 0 < d) :
    compareFrac a b c d = .eq ↔ (a / b : ℚ) = c / d := by
  rw [compareFrac, compare_eq_iff_eq, div_eq_div_iff (by exact_mod_cast hb.ne') (by exact_mod_cast hd.ne')]
  norm_cast

/-! ## The search over grids -/

/-- The neighbour below a value `value · ua / ub` on the grid of `10^k`. -/
def gridBelow (value ua ub : ℕ) (k : ℤ) : ℕ :=
  value * ua * (powTen k).2 / (ub * (powTen k).1)

/-- Whatever the search returns is a candidate that passed the test, with trailing zeros
trimmed, as long as the neighbour below passes on some grid the fuel reaches. -/
theorem search_returns_inside {m value ua ub : ℕ} {top : ℤ} {ins : ℕ → ℤ → Bool}
    {fuel n j : ℕ} (hj : j < fuel)
    (hgood : gridBelow value ua ub (top - (n + j : ℕ) + 1) ≠ 0 ∧
      ins (gridBelow value ua ub (top - (n + j : ℕ) + 1)) (top - (n + j : ℕ) + 1) = true) :
    ∃ c k, ins c k = true ∧
      shortestDecimal.search m value ua ub top ins fuel n = (Decimal.mk c k).trim := by
  -- induction on the fuel: each step returns a candidate that passed, or moves to a finer grid
  induction fuel generalizing n j with
  | zero => omega
  | succ fuel ih =>
    rw [shortestDecimal.search]
    simp only
    set k := top - (n : ℤ) + 1
    set down := value * ua * (powTen k).2 / (ub * (powTen k).1)
    split
    · -- both neighbours pass: the nearer one, or the even one of a tie
      rename_i h1
      simp only [Bool.and_eq_true, decide_eq_true_eq] at h1
      split
      · exact ⟨_, _, h1.1.2, rfl⟩
      · exact ⟨_, _, h1.2, rfl⟩
      · split
        · exact ⟨_, _, h1.1.2, rfl⟩
        · exact ⟨_, _, h1.2, rfl⟩
    · split
      · rename_i h2
        simp only [Bool.and_eq_true, decide_eq_true_eq] at h2
        exact ⟨_, _, h2.2, rfl⟩
      · split
        · rename_i h3
          exact ⟨_, _, h3, rfl⟩
        · rename_i h2 _
          cases j with
          | zero =>
            -- the neighbour below passes on this grid, so the search stops here
            refine (h2 ?_).elim
            simp only [gridBelow, Nat.add_zero] at hgood
            simpa only [Bool.and_eq_true, decide_eq_true_eq] using hgood
          | succ j =>
            rw [show n + (j + 1) = n + 1 + j by omega] at hgood
            exact ih (by omega) hgood

theorem search_value {P : ℚ → Prop} {m value ua ub : ℕ} {top : ℤ} {ins : ℕ → ℤ → Bool}
    {fuel n j : ℕ} (hins : ∀ c k, ins c k = true → P (c * 10 ^ k)) (hj : j < fuel)
    (hgood : gridBelow value ua ub (top - (n + j : ℕ) + 1) ≠ 0 ∧
      ins (gridBelow value ua ub (top - (n + j : ℕ) + 1)) (top - (n + j : ℕ) + 1) = true) :
    P (shortestDecimal.search m value ua ub top ins fuel n).value := by
  obtain ⟨c, k, hc, heq⟩ := search_returns_inside hj hgood
  rw [heq, Decimal.trim_value]
  exact hins c k hc

/-- The test of a candidate: a fraction lies between two others, the ends counting when
`incl` holds. -/
theorem compareFrac_between_iff {a b l₁ l₂ h₁ h₂ : ℕ} (incl : Bool) (hb : 0 < b) (hl : 0 < l₂)
    (hh : 0 < h₂) :
    ((compareFrac a b l₁ l₂ == .gt || incl && compareFrac a b l₁ l₂ == .eq) &&
        (compareFrac a b h₁ h₂ == .lt || incl && compareFrac a b h₁ h₂ == .eq)) = true ↔
      ((l₁ / l₂ : ℚ) < a / b ∨ incl = true ∧ (a / b : ℚ) = l₁ / l₂) ∧
        ((a / b : ℚ) < h₁ / h₂ ∨ incl = true ∧ (a / b : ℚ) = h₁ / h₂) := by
  simp only [Bool.and_eq_true, Bool.or_eq_true, beq_iff_eq, compareFrac_eq_gt_iff hb hl,
    compareFrac_eq_eq_iff hb hl, compareFrac_eq_lt_iff hb hh, compareFrac_eq_eq_iff hb hh]

theorem gridBelow_le (value ua ub : ℕ) (k : ℤ) (hub : 0 < ub) :
    (gridBelow value ua ub k : ℚ) * 10 ^ k ≤ value * ua / ub ∧
      (value * ua / ub : ℚ) < (gridBelow value ua ub k + 1) * 10 ^ k := by
  have hta := powTen_fst_pos k
  have htb := powTen_snd_pos k
  have hD : 0 < ub * (powTen k).1 := Nat.mul_pos hub hta
  have h1 := Nat.div_mul_le_self (value * ua * (powTen k).2) (ub * (powTen k).1)
  have h2 := Nat.lt_div_mul_add (a := value * ua * (powTen k).2) hD
  have h10 : (10 : ℚ) ^ k = (powTen k).1 / (powTen k).2 := (powTen_div k).symm
  have hubq : (0 : ℚ) < ub := by exact_mod_cast hub
  have htaq : (0 : ℚ) < (powTen k).1 := by exact_mod_cast hta
  have htbq : (0 : ℚ) < (powTen k).2 := by exact_mod_cast htb
  unfold gridBelow
  set q := value * ua * (powTen k).2 / (ub * (powTen k).1)
  have h1' : (q : ℚ) * (ub * (powTen k).1) ≤ value * ua * (powTen k).2 := by exact_mod_cast h1
  have h2' : (value * ua * (powTen k).2 : ℚ) < q * (ub * (powTen k).1) + ub * (powTen k).1 := by
    exact_mod_cast h2
  rw [h10]
  constructor
  · rw [mul_div_assoc', div_le_div_iff₀ htbq hubq]
    nlinarith
  · rw [mul_div_assoc', div_lt_div_iff₀ hubq htbq]
    nlinarith

/-- On a grid of at most a quarter unit, the neighbour below the value is no zero and lies
strictly inside the rounding interval. -/
theorem gridBelow_roundsTo (f : BinaryFormat) {m : ℕ} {e k : ℤ} (hm : 0 < m)
    (hk : (10 : ℚ) ^ k ≤ 2 ^ (e - 2)) :
    gridBelow (4 * m) (powTwo (e - 2)).1 (powTwo (e - 2)).2 k ≠ 0 ∧
      f.RoundsTo m e (gridBelow (4 * m) (powTwo (e - 2)).1 (powTwo (e - 2)).2 k * 10 ^ k) := by
  obtain ⟨h1, h2⟩ := gridBelow_le (4 * m) (powTwo (e - 2)).1 (powTwo (e - 2)).2 k
    (powTwo_snd_pos _)
  set c := gridBelow (4 * m) (powTwo (e - 2)).1 (powTwo (e - 2)).2 k
  -- the value is `4m` quarter units
  have hv : ((4 * m : ℕ) * (powTwo (e - 2)).1 / (powTwo (e - 2)).2 : ℚ) = 4 * m * 2 ^ (e - 2) := by
    rw [mul_div_assoc, powTwo_div]
    push_cast
    ring
  rw [hv] at h1 h2
  have hm1 : (1 : ℚ) ≤ m := by exact_mod_cast hm
  have hu : (0 : ℚ) < 2 ^ (e - 2) := zpow_pos two_pos _
  have hlow := f.lowerQuarters_le e hm
  refine ⟨?_, (f.roundsTo_iff).mpr ⟨.inl ?_, .inl ?_⟩⟩
  · rintro hc
    rw [hc] at h2
    push_cast at h2
    nlinarith
  · nlinarith
  · nlinarith

/-! ## How far the search goes for single precision -/

theorem floorLog10_adjust_le (num den fuel : ℕ) (t : ℤ) :
    floorLog10.adjust num den fuel t ≤ t + fuel := by
  induction fuel generalizing t with
  | zero => simp [floorLog10.adjust]
  | succ fuel ih =>
    rw [floorLog10.adjust]
    simp only
    split_ifs
    · have := ih (t - 1)
      omega
    · have := ih (t + 1)
      omega
    · omega

@[simp] theorem single_fractionBits : BinaryFormat.single.fractionBits = 23 := rfl

@[simp] theorem single_minExponent : BinaryFormat.single.minExponent = -149 := rfl

@[simp] theorem single_topExponent : BinaryFormat.single.topExponent = 255 := rfl

@[simp] theorem single_signBit : BinaryFormat.single.signBit = 2 ^ 31 := rfl

theorem BinaryFormat.IsValue.single_exponent_le {m : ℕ} {e : ℤ} (hv : BinaryFormat.single.IsValue m e) :
    -149 ≤ e ∧ e ≤ 105 := by
  have h1 := hv.minExponent_le
  have h2 := hv.magnitude_lt
  simp only [BinaryFormat.magnitude, single_fractionBits, single_minExponent,
    single_topExponent] at h1 h2
  omega

/-- The first grid's exponent is at most eight above the estimate from binary logarithms. -/
theorem floorLog10_single_le {m : ℕ} {e : ℤ} (hm : 0 < m) (hlt : m < 2 ^ 24) :
    floorLog10 (4 * m * (powTwo (e - 2)).1) (powTwo (e - 2)).2 ≤ (23 + e) * 30103 / 100000 + 8 := by
  have h1 : (4 * m * (powTwo (e - 2)).1).log2 < 26 + (e - 2).toNat := by
    rw [Nat.log2_lt (Nat.mul_pos (by omega) (powTwo_fst_pos _)).ne']
    simp only [powTwo, Nat.pow_eq, pow_add]
    have := Nat.two_pow_pos (e - 2).toNat
    calc 4 * m * 2 ^ (e - 2).toNat < 4 * 2 ^ 24 * 2 ^ (e - 2).toNat := by
          apply Nat.mul_lt_mul_of_pos_right _ this
          omega
      _ = 2 ^ 26 * 2 ^ (e - 2).toNat := by norm_num
  have h2 : (powTwo (e - 2)).2.log2 = (-(e - 2)).toNat := by
    simp [powTwo, Nat.pow_eq, Nat.log2_two_pow]
  have h3 := floorLog10_adjust_le (4 * m * (powTwo (e - 2)).1) (powTwo (e - 2)).2 8
    (((4 * m * (powTwo (e - 2)).1).log2 - (powTwo (e - 2)).2.log2 : ℤ) * 30103 / 100000)
  unfold floorLog10
  simp only
  rw [h2] at h3 ⊢
  omega

theorem ten_zpow_le_of_nonneg {j a : ℤ} (hj : 0 ≤ j) (h : 4 * j ≤ a) :
    (10 : ℚ) ^ j ≤ 2 ^ a := by
  obtain ⟨n, rfl⟩ := Int.eq_ofNat_of_zero_le hj
  calc (10 : ℚ) ^ (n : ℤ) = 10 ^ n := zpow_natCast _ _
    _ ≤ 16 ^ n := pow_le_pow_left₀ (by norm_num) (by norm_num) n
    _ = 2 ^ ((4 * n : ℕ) : ℤ) := by rw [zpow_natCast, pow_mul]; norm_num
    _ ≤ 2 ^ a := zpow_le_zpow_right₀ (by norm_num) (by push_cast; omega)

theorem ten_zpow_le_of_neg {j a : ℤ} (hj : j < 0) (h : 3 * j ≤ a) :
    (10 : ℚ) ^ j ≤ 2 ^ a := by
  obtain ⟨n, rfl⟩ := Int.exists_eq_neg_ofNat hj.le
  calc (10 : ℚ) ^ (-(n : ℤ)) = (10 ^ n)⁻¹ := by rw [zpow_neg, zpow_natCast]
    _ ≤ (8 ^ n)⁻¹ := inv_anti₀ (by positivity) (pow_le_pow_left₀ (by norm_num) (by norm_num) n)
    _ = 2 ^ (-((3 * n : ℕ) : ℤ)) := by rw [zpow_neg, zpow_natCast, pow_mul]; norm_num
    _ ≤ 2 ^ a := zpow_le_zpow_right₀ (by norm_num) (by push_cast; omega)

/-- For single precision, the fortieth grid is at most a quarter unit. -/
theorem ten_zpow_fortieth_le {m : ℕ} {e : ℤ} (hv : BinaryFormat.single.IsValue m e) :
    (10 : ℚ) ^ (floorLog10 (4 * m * (powTwo (e - 2)).1) (powTwo (e - 2)).2 - 39) ≤ 2 ^ (e - 2) := by
  have hlt : m < 2 ^ 24 := hv.lt_two_pow
  have htop := floorLog10_single_le (e := e) hv.pos hlt
  obtain ⟨he1, he2⟩ := hv.single_exponent_le
  set j := floorLog10 (4 * m * (powTwo (e - 2)).1) (powTwo (e - 2)).2 - 39
  rcases lt_or_ge j 0 with hj | hj
  · exact ten_zpow_le_of_neg hj (by omega)
  · exact ten_zpow_le_of_nonneg hj (by omega)

/-! ## What the search returns -/

theorem cast_mul_powTen_div (c : ℕ) (k : ℤ) :
    ((c * (powTen k).1 : ℕ) : ℚ) / (powTen k).2 = c * 10 ^ k := by
  push_cast
  rw [mul_div_assoc, powTen_div]

theorem cast_mul_powTwo_div (c : ℕ) (k : ℤ) :
    ((c * (powTwo k).1 : ℕ) : ℚ) / (powTwo k).2 = c * 2 ^ k := by
  push_cast
  rw [mul_div_assoc, powTwo_div]

/-- The test that `shortestDecimal` makes of a candidate `c · 10^k` is the rounding interval. -/
theorem inside_iff_roundsTo (f : BinaryFormat) (m : ℕ) (e : ℤ) (c : ℕ) (k : ℤ) :
    ((compareFrac (c * (powTen k).1) (powTen k).2 (f.lowerQuarters m e * (powTwo (e - 2)).1)
            (powTwo (e - 2)).2 == .gt ||
          decide (m % 2 = 0) &&
            compareFrac (c * (powTen k).1) (powTen k).2 (f.lowerQuarters m e * (powTwo (e - 2)).1)
              (powTwo (e - 2)).2 == .eq) &&
        (compareFrac (c * (powTen k).1) (powTen k).2 ((4 * m + 2) * (powTwo (e - 2)).1)
            (powTwo (e - 2)).2 == .lt ||
          decide (m % 2 = 0) &&
            compareFrac (c * (powTen k).1) (powTen k).2 ((4 * m + 2) * (powTwo (e - 2)).1)
              (powTwo (e - 2)).2 == .eq)) = true ↔
      f.RoundsTo m e (c * 10 ^ k) := by
  rw [compareFrac_between_iff _ (powTen_snd_pos k) (powTwo_snd_pos _) (powTwo_snd_pos _),
    f.roundsTo_iff]
  simp only [cast_mul_powTen_div, cast_mul_powTwo_div, decide_eq_true_eq]
  push_cast
  rfl

/-- The shortest decimal of a positive single-precision value lies in its rounding interval. -/
theorem shortestDecimal_roundsTo {m : ℕ} {e : ℤ} (hv : BinaryFormat.single.IsValue m e) :
    BinaryFormat.single.RoundsTo m e (shortestDecimal BinaryFormat.single m e).value := by
  obtain ⟨hne, hin⟩ := gridBelow_roundsTo BinaryFormat.single hv.pos (ten_zpow_fortieth_le hv)
  set top := floorLog10 (4 * m * (powTwo (e - 2)).1) (powTwo (e - 2)).2
  have hk : top - 39 = top - ((1 + 39 : ℕ) : ℤ) + 1 := by push_cast; ring
  rw [hk] at hne hin
  unfold shortestDecimal
  simp only
  refine search_value (P := BinaryFormat.single.RoundsTo m e) (fun c k hc => ?_) (j := 39)
    (by norm_num) ⟨hne, ?_⟩
  · exact (inside_iff_roundsTo _ _ _ _ _).mp hc
  · -- on the fortieth grid the neighbour below passes the test
    exact (inside_iff_roundsTo _ _ _ _ _).mpr hin

end SoundControl
