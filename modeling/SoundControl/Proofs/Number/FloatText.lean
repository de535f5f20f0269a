import SoundControl.Proofs.Number.Shortest
import SoundControl.Proofs.Text.ReadBack
import SoundControl.Number.Format

/-! # Float texts read back

Every single-precision float that is no NaN reads back from its text as the same bits
(`float_singleText`). -/

namespace SoundControl

namespace Literal

/-! ## Bytes of digits -/

theorem toNat_of_isDigit {c : Char} (hc : c.isDigit = true) : 48 ≤ c.toNat ∧ c.toNat ≤ 57 := by
  simp only [Char.isDigit, Bool.and_eq_true, decide_eq_true_eq] at hc
  exact ⟨hc.1, hc.2⟩

/-- The one byte of a digit, and what reading makes of it. -/
theorem digitByte_spec {c : Char} (hc : c.isDigit = true) :
    Utf8.ofChar c = [c.toNat.toUInt8] ∧ c.toNat.toUInt8 ≠ 0x5F ∧ c.toNat.toUInt8 ≠ 0x2E ∧
      isDigit c.toNat.toUInt8 = true ∧ digitValue c.toNat.toUInt8 = c.toNat - 48 ∧
      c.toNat.toUInt8 ≠ 0x2B ∧ c.toNat.toUInt8 ≠ 0x2D ∧ lower c.toNat.toUInt8 ≠ 0x78 ∧
      lower c.toNat.toUInt8 ≠ 0x69 ∧ lower c.toNat.toUInt8 ≠ 0x6E := by
  obtain ⟨h1, h2⟩ := toNat_of_isDigit hc
  refine ⟨Utf8.ofChar_of_lt (by omega), ?_⟩
  generalize c.toNat = n at h1 h2
  interval_cases n <;> decide

/-! ## Reading digits -/

theorem le_ofDigitChars (cs : List Char) (acc : ℕ) : acc ≤ Nat.ofDigitChars 10 cs acc := by
  rw [Nat.ofDigitChars_eq_ofDigitChars_zero]
  have := Nat.one_le_two_pow (n := cs.length)
  nlinarith [Nat.pow_le_pow_left (show 2 ≤ 10 by norm_num) cs.length]

/-- Significand digits are read left to right into one number, and counted after the point. -/
theorem significandDigits_digits {cs : List Char} (hcs : ∀ c ∈ cs, c.isDigit = true)
    (acc fd : ℕ) (dot saw : Bool) (rest : Bytes) :
    significandDigits false acc fd dot saw (cs.flatMap Utf8.ofChar ++ rest) =
      significandDigits false (Nat.ofDigitChars 10 cs acc)
        (if dot then fd + cs.length else fd) dot (saw || !cs.isEmpty) rest := by
  induction cs generalizing acc fd saw with
  | nil => simp
  | cons c cs ih =>
    obtain ⟨hb, h5F, h2E, hdig, hval, -⟩ := digitByte_spec (hcs c List.mem_cons_self)
    rw [List.flatMap_cons, hb, List.singleton_append, List.cons_append, significandDigits]
    simp only [beq_iff_eq, h5F, h2E, hdig, if_false, Bool.false_and, Bool.or_false, if_true, hval]
    rw [ih (fun c' h => hcs c' (List.mem_cons_of_mem _ h)), Nat.ofDigitChars_cons]
    congr 1
    · rw [Nat.mul_comm]
      rfl
    · cases dot <;> simp [Nat.add_assoc, Nat.add_comm 1]
    · simp

theorem significandDigits_point (acc fd : ℕ) (saw : Bool) (rest : Bytes) :
    significandDigits false acc fd false saw (0x2E :: rest) =
      significandDigits false acc fd true saw rest := by
  rw [significandDigits]
  rfl

theorem significandDigits_exponent (acc fd : ℕ) (dot saw : Bool) (rest : Bytes) :
    significandDigits false acc fd dot saw (0x65 :: rest) = (acc, fd, saw, 0x65 :: rest) := by
  rw [significandDigits]
  rfl

/-- Exponent digits are read into one number, which stays below the saturation bound. -/
theorem exponentDigits_digits {cs : List Char} (hcs : ∀ c ∈ cs, c.isDigit = true) (acc : ℕ)
    (h : Nat.ofDigitChars 10 cs acc < 10000) :
    exponentDigits acc (cs.flatMap Utf8.ofChar) = (Nat.ofDigitChars 10 cs acc, []) := by
  induction cs generalizing acc with
  | nil => rfl
  | cons c cs ih =>
    obtain ⟨hb, h5F, -, hdig, hval, -⟩ := digitByte_spec (hcs c List.mem_cons_self)
    rw [Nat.ofDigitChars_cons] at h
    have hacc : acc < 10000 := by
      have := le_ofDigitChars cs (10 * acc + (c.toNat - '0'.toNat))
      omega
    rw [List.flatMap_cons, hb, List.singleton_append, exponentDigits]
    simp only [beq_iff_eq, h5F, hdig, if_false, if_true, hval, hacc]
    rw [ih (fun c' h => hcs c' (List.mem_cons_of_mem _ h)), Nat.ofDigitChars_cons, Nat.mul_comm]
    · rfl
    · rw [Nat.mul_comm]
      exact h

/-! ## Decimal literals -/

/-- The exponent part of a decimal literal: `e`, the sign and the digits, or nothing. -/
def exponentPart : Option (Bool × List Char) → List Char
  | none => []
  | some (eneg, es) => 'e' :: (if eneg then '-' else '+') :: es

/-- A decimal literal: digits, then a point and digits when there are any after the point, then
the exponent part. -/
def decimalLiteral (int frac : List Char) (exp : Option (Bool × List Char)) : List Char :=
  int ++ (if frac = [] then [] else '.' :: frac) ++ exponentPart exp

/-- The power of ten that an exponent part stands for. -/
def exponentValue : Option (Bool × List Char) → ℤ
  | none => 0
  | some (eneg, es) => if eneg then -(Nat.ofDigitChars 10 es 0 : ℤ) else Nat.ofDigitChars 10 es 0

/-- Every byte of a decimal literal is a digit's, a point, `e` or a sign. -/
theorem mem_literal_bytes {int frac : List Char} {exp : Option (Bool × List Char)}
    (hd : ∀ c ∈ int ++ frac, c.isDigit = true)
    (hexp : ∀ eneg es, exp = some (eneg, es) → ∀ c ∈ es, c.isDigit = true) {b : UInt8}
    (hb : b ∈ (decimalLiteral int frac exp).flatMap Utf8.ofChar) :
    (∃ c : Char, c.isDigit = true ∧ b = c.toNat.toUInt8) ∨ b = 0x2E ∨ b = 0x65 ∨ b = 0x2B ∨
      b = 0x2D := by
  obtain ⟨c, hc, hbc⟩ := List.mem_flatMap.mp hb
  have hdig : c.isDigit = true → ∃ c : Char, c.isDigit = true ∧ b = c.toNat.toUInt8 := by
    intro h
    rw [(digitByte_spec h).1, List.mem_singleton] at hbc
    exact ⟨c, h, hbc⟩
  unfold decimalLiteral at hc
  simp only [List.mem_append] at hc
  rcases hc with (hc | hc) | hc
  · exact .inl (hdig (hd c (List.mem_append_left _ hc)))
  · split_ifs at hc
    · simp at hc
    · rcases List.mem_cons.mp hc with rfl | hc
      · exact .inr (.inl (List.mem_singleton.mp hbc))
      · exact .inl (hdig (hd c (List.mem_append_right _ hc)))
  · rcases exp with _ | ⟨eneg, es⟩
    · simp [exponentPart] at hc
    · simp only [exponentPart, List.mem_cons] at hc
      rcases hc with rfl | hc | hc
      · exact .inr (.inr (.inl (List.mem_singleton.mp hbc)))
      · cases eneg
        · rw [if_neg Bool.false_ne_true] at hc
          subst hc
          exact .inr (.inr (.inr (.inl (List.mem_singleton.mp hbc))))
        · rw [if_pos rfl] at hc
          subst hc
          exact .inr (.inr (.inr (.inr (List.mem_singleton.mp hbc))))
      · exact .inl (hdig (hexp eneg es rfl c hc))

/-- No byte of a decimal literal reads as the `x` of a hex prefix or as an underscore. -/
theorem literalByte_spec {b : UInt8}
    (h : (∃ c : Char, c.isDigit = true ∧ b = c.toNat.toUInt8) ∨ b = 0x2E ∨ b = 0x65 ∨ b = 0x2B ∨
      b = 0x2D) :
    lower b ≠ 0x78 ∧ b ≠ 0x5F := by
  rcases h with ⟨c, hc, rfl⟩ | rfl | rfl | rfl | rfl
  · obtain ⟨-, h5F, -, -, -, -, -, h78, -⟩ := digitByte_spec hc
    exact ⟨h78, h5F⟩
  all_goals decide

/-- The significand of a literal is read as its digits on both sides of the point, as one
number, with the count of those after the point. -/
theorem significandDigits_literal {int frac : List Char} (hint : int ≠ [])
    (hd : ∀ c ∈ int ++ frac, c.isDigit = true) (E : Bytes) (hE : E = [] ∨ ∃ r, E = 0x65 :: r) :
    significandDigits false 0 0 false false
      (int.flatMap Utf8.ofChar ++ ((if frac = [] then [] else '.' :: frac).flatMap Utf8.ofChar ++ E)) =
      (Nat.ofDigitChars 10 (int ++ frac) 0, frac.length, true, E) := by
  have hi : ∀ c ∈ int, c.isDigit = true := fun c h => hd c (List.mem_append_left _ h)
  have hf : ∀ c ∈ frac, c.isDigit = true := fun c h => hd c (List.mem_append_right _ h)
  have hstop : ∀ acc fd dot, significandDigits false acc fd dot true E = (acc, fd, true, E) := by
    intro acc fd dot
    rcases hE with rfl | ⟨r, rfl⟩
    · rfl
    · exact significandDigits_exponent acc fd dot true r
  rw [significandDigits_digits hi]
  have hne : (false || !int.isEmpty) = true := by simpa using hint
  rw [hne, if_neg Bool.false_ne_true]
  by_cases hfr : frac = []
  · subst hfr
    simpa using hstop _ 0 false
  · rw [if_neg hfr, List.flatMap_cons, show Utf8.ofChar '.' = [0x2E] from rfl, List.singleton_append,
      List.cons_append, significandDigits_point, significandDigits_digits hf, if_pos rfl,
      Bool.true_or, hstop, Nat.ofDigitChars_append, Nat.zero_add]

/-- A decimal literal, with a minus sign or none, reads as its sign, its digits as one number and
the power of ten that scales them. -/
theorem floatPrefix_literal (neg : Bool) {int frac : List Char} {exp : Option (Bool × List Char)}
    (hint : int ≠ []) (hd : ∀ c ∈ int ++ frac, c.isDigit = true)
    (hexp : ∀ eneg es, exp = some (eneg, es) →
      es ≠ [] ∧ (∀ c ∈ es, c.isDigit = true) ∧ Nat.ofDigitChars 10 es 0 < 10000) :
    floatPrefix ((if neg then [0x2D] else []) ++ (decimalLiteral int frac exp).flatMap Utf8.ofChar) =
      some (⟨neg, Nat.ofDigitChars 10 (int ++ frac) 0, -(frac.length : ℤ) + exponentValue exp,
        false⟩, []) := by
  have hlow : ∀ b ∈ (decimalLiteral int frac exp).flatMap Utf8.ofChar, lower b ≠ 0x78 :=
    fun b hb => (literalByte_spec (mem_literal_bytes hd (fun eneg es h => (hexp eneg es h).2.1) hb)).1
  -- the body: the significand's bytes, then those of the exponent part
  have hbody : (decimalLiteral int frac exp).flatMap Utf8.ofChar =
      int.flatMap Utf8.ofChar ++ ((if frac = [] then [] else '.' :: frac).flatMap Utf8.ofChar ++
        (exponentPart exp).flatMap Utf8.ofChar) := by
    simp [decimalLiteral]
  have hsig := significandDigits_literal hint hd ((exponentPart exp).flatMap Utf8.ofChar) (by
    rcases exp with _ | ⟨eneg, es⟩
    · exact .inl rfl
    · exact .inr ⟨_, rfl⟩)
  rw [← hbody] at hsig
  obtain ⟨c0, int', rfl⟩ := List.exists_cons_of_ne_nil hint
  obtain ⟨hb0, -, -, -, -, h2B, h2D, -⟩ := digitByte_spec (hd c0 (by simp))
  have hbody0 : ∃ rest, (decimalLiteral (c0 :: int') frac exp).flatMap Utf8.ofChar =
      c0.toNat.toUInt8 :: rest := ⟨_, by
    rw [hbody, List.flatMap_cons, hb0, List.singleton_append, List.cons_append]⟩
  obtain ⟨rest, hrest⟩ := hbody0
  generalize (decimalLiteral (c0 :: int') frac exp).flatMap Utf8.ofChar = body at hsig hlow hrest ⊢
  unfold floatPrefix
  split
  next neg' t hsign =>
  -- the sign comes off the front, and the body starts with a digit
  have hnt : neg' = neg ∧ body = t := by
    cases neg
    · simp only [Bool.false_eq_true, if_false, List.nil_append] at hsign
      rw [hrest] at hsign ⊢
      split at hsign
      · exact absurd (List.cons.inj ‹_›).1 h2B
      · exact absurd (List.cons.inj ‹_›).1 h2D
      · simpa [eq_comm] using hsign
    · simp only [if_true, List.singleton_append] at hsign
      simpa [eq_comm] using hsign
  obtain ⟨rfl, rfl⟩ := hnt
  split
  next hex t' hhex =>
  -- no byte of the text reads as the `x` of a hex prefix
  have hht : hex = false ∧ body = t' := by
    split at hhex
    · rename_i x c r
      have hx : lower x ≠ 0x78 := hlow x (by simp)
      simp only [beq_iff_eq, hx, if_false] at hhex
      simpa [eq_comm] using hhex
    · simpa [eq_comm] using hhex
  obtain ⟨rfl, rfl⟩ := hht
  rw [hsig]
  simp only [Bool.not_true, Bool.false_eq_true, if_false]
  rcases exp with _ | ⟨eneg, es⟩
  · simp [exponentPart, exponentValue]
  · obtain ⟨hne, hes, hlt⟩ := hexp eneg es rfl
    obtain ⟨c1, es', rfl⟩ := List.exists_cons_of_ne_nil hne
    obtain ⟨hb1, -, -, hd1, -⟩ := digitByte_spec (hes c1 (by simp))
    have he := exponentDigits_digits hes 0 hlt
    have hL : (c1 :: es').flatMap Utf8.ofChar =
        c1.toNat.toUInt8 :: es'.flatMap Utf8.ofChar := by
      rw [List.flatMap_cons, hb1, List.singleton_append]
    rw [hL] at he
    have hs : Utf8.ofChar (if eneg then '-' else '+') = [if eneg then 0x2D else 0x2B] := by
      cases eneg <;> rfl
    rw [exponentPart, List.flatMap_cons, List.flatMap_cons, hL, hs,
      show Utf8.ofChar 'e' = [0x65] from rfl]
    cases eneg <;> simp [hd1, he, exponentValue, show lower 0x65 = 0x65 by decide]

theorem commonPrefixLower_cons_of_ne {b : UInt8} {rest : Bytes} {w : Char} {ws : List Char}
    (h : (lower b).toNat ≠ w.toNat) : commonPrefixLower (b :: rest) (w :: ws) = 0 := by
  simp [commonPrefixLower, h]

/-- A decimal literal, with a minus sign or none, is no infinity and no NaN. -/
theorem special?_literal (neg : Bool) {int frac : List Char} {exp : Option (Bool × List Char)}
    (hint : int ≠ []) (hd : ∀ c ∈ int ++ frac, c.isDigit = true) :
    special? ((if neg then [0x2D] else []) ++ (decimalLiteral int frac exp).flatMap Utf8.ofChar) =
      none := by
  obtain ⟨c0, int', rfl⟩ := List.exists_cons_of_ne_nil hint
  obtain ⟨hb0, -, -, -, -, h2B, h2D, -, h69, h6E⟩ := digitByte_spec (hd c0 (by simp))
  have hbody : ∃ rest, (decimalLiteral (c0 :: int') frac exp).flatMap Utf8.ofChar =
      c0.toNat.toUInt8 :: rest :=
    ⟨_, by rw [decimalLiteral, List.cons_append, List.cons_append, List.flatMap_cons, hb0,
      List.singleton_append]⟩
  obtain ⟨rest, hrest⟩ := hbody
  rw [hrest]
  generalize c0.toNat.toUInt8 = b at h2B h2D h69 h6E
  cases neg
  · -- a digit first: no infinity and no NaN starts so
    simp only [Bool.false_eq_true, if_false, List.nil_append]
    unfold special?
    split
    · rename_i h
      exact absurd (List.cons.inj h).1 h2B
    · rename_i h
      exact absurd (List.cons.inj h).1 h2D
    · rename_i heq
      obtain ⟨rfl, rfl⟩ := List.cons.inj heq
      have h1 : (lower b == 105) = false := by simpa using h69
      have h2 : (lower b == 110) = false := by simpa using h6E
      simp only [h1, h2, Bool.false_and, Bool.false_eq_true, if_false]
    · simp at *
  · -- a minus, then a digit where an infinity would have its `i`
    have hinf : "infinity".toList = ['i', 'n', 'f', 'i', 'n', 'i', 't', 'y'] := by decide
    have h0 : commonPrefixLower (b :: rest) "infinity".toList = 0 := by
      rw [hinf]
      apply commonPrefixLower_cons_of_ne
      intro h
      exact h69 (UInt8.toNat_inj.mp h)
    simp only [if_true, List.singleton_append]
    unfold special?
    simp only [h0]
    decide

/-- A decimal literal reads as its value rounded to the format, unless that is an infinity. -/
theorem float_literal (f : BinaryFormat) (neg : Bool) {int frac : List Char}
    {exp : Option (Bool × List Char)} (hint : int ≠ []) (hd : ∀ c ∈ int ++ frac, c.isDigit = true)
    (hexp : ∀ eneg es, exp = some (eneg, es) →
      es ≠ [] ∧ (∀ c ∈ es, c.isDigit = true) ∧ Nat.ofDigitChars 10 es 0 < 10000)
    (hne : f.ofDecimal neg (Nat.ofDigitChars 10 (int ++ frac) 0)
        (-(frac.length : ℤ) + exponentValue exp) % f.signBit ≠
      f.topExponent * Nat.pow 2 f.fractionBits) :
    float f ((if neg then [0x2D] else []) ++ (decimalLiteral int frac exp).flatMap Utf8.ofChar) =
      .ok (f.ofDecimal neg (Nat.ofDigitChars 10 (int ++ frac) 0)
        (-(frac.length : ℤ) + exponentValue exp)) := by
  have hus : ((if neg then [0x2D] else []) ++
      (decimalLiteral int frac exp).flatMap Utf8.ofChar).contains 0x5F = false := by
    rw [Bool.eq_false_iff]
    intro h
    rcases List.mem_append.mp (List.contains_iff_mem.mp h) with h' | h'
    · split_ifs at h' <;> simp at h'
    · exact (literalByte_spec (mem_literal_bytes hd (fun eneg es h => (hexp eneg es h).2.1) h')).2 rfl
  unfold float
  rw [special?_literal neg hint hd]
  simp only
  rw [floatPrefix_literal neg hint hd hexp]
  simp only [List.isEmpty_nil, Bool.not_true, Bool.false_eq_true, if_false, List.length_nil,
    Nat.sub_zero, List.take_length, hus, Bool.false_and, if_neg hne]

end Literal

open Literal

/-! ## Texts of decimals -/

theorem fraction_chars (ds : List Char) (dp : ℤ) :
    (List.range (((ds.length : ℤ) - dp).toNat)).map (fun i : ℕ =>
        let j : ℤ := dp + (i : ℤ)
        if j < 0 then '0' else ds.getD j.toNat '0') =
      List.replicate (-dp).toNat '0' ++ ds.drop dp.toNat := by
  apply List.ext_getElem
  · simp only [List.length_map, List.length_range, List.length_append, List.length_replicate,
      List.length_drop]
    omega
  · intro i h1 h2
    simp only [List.getElem_map, List.getElem_range]
    by_cases hi : i < (-dp).toNat
    · rw [List.getElem_append_left (by simpa using hi), List.getElem_replicate, if_pos (by omega)]
    · rw [List.getElem_append_right (by simpa using hi), List.getElem_drop, if_neg (by omega),
        List.getD_eq_getElem?_getD, List.getElem?_eq_getElem (by simp at h2 ⊢; omega)]
      simp only [List.length_replicate, Option.getD_some]
      congr 1
      omega

theorem positional_of_nonpos (ds : List Char) (hds : ds ≠ []) {dp : ℤ} (h : dp ≤ 0) :
    positional ds dp = decimalLiteral ['0'] (List.replicate (-dp).toNat '0' ++ ds) none := by
  have hlen : 0 < ds.length := List.length_pos_iff.mpr hds
  have c1 : ¬ 0 < dp := by omega
  have c2 : 0 < (ds.length : ℤ) - dp := by omega
  unfold positional decimalLiteral
  simp only [gt_iff_lt, c1, c2, if_true, if_false, fraction_chars, Int.toNat_of_nonpos h,
    List.drop_zero, exponentPart, List.append_nil]
  rw [if_neg (by simp [hds])]

theorem positional_of_lt (ds : List Char) {dp : ℤ} (h0 : 0 < dp) (h : dp < ds.length) :
    positional ds dp = decimalLiteral (ds.take dp.toNat) (ds.drop dp.toNat) none := by
  have c2 : 0 < (ds.length : ℤ) - dp := by omega
  have c3 : (-dp).toNat = 0 := by omega
  have c4 : dp.toNat - ds.length = 0 := by omega
  unfold positional decimalLiteral
  simp only [gt_iff_lt, h0, c2, if_true, fraction_chars, c3, c4, List.replicate_zero,
    List.nil_append, List.append_nil, exponentPart]
  rw [if_neg (by simp; omega)]

theorem positional_of_ge (ds : List Char) {dp : ℤ} (h : (ds.length : ℤ) ≤ dp) (hds : ds ≠ []) :
    positional ds dp = decimalLiteral (ds ++ List.replicate (dp.toNat - ds.length) '0') [] none := by
  have hlen : 0 < ds.length := List.length_pos_iff.mpr hds
  have c1 : 0 < dp := by omega
  have c2 : ¬ 0 < (ds.length : ℤ) - dp := by omega
  unfold positional decimalLiteral
  simp only [gt_iff_lt, c1, c2, if_true, if_false, exponentPart, List.append_nil]
  rw [List.take_of_length_le (by omega)]

theorem exponential_literal (c : Char) (rest : List Char) (dp : ℤ) :
    exponential (c :: rest) dp = decimalLiteral [c] rest (some (decide (dp - 1 < 0),
      if (decimalDigits (dp - 1).natAbs).length < 2 then '0' :: decimalDigits (dp - 1).natAbs
      else decimalDigits (dp - 1).natAbs)) := by
  unfold exponential decimalLiteral
  cases rest with
  | nil => simp [exponentPart]
  | cons c' rest => simp [exponentPart]

theorem isDigit_of_mem_decimalDigits {n : ℕ} {c : Char} (h : c ∈ decimalDigits n) :
    c.isDigit = true :=
  Nat.isDigit_of_mem_toDigits (by norm_num) (by norm_num) h

/-- Exponent digits padded to two places keep their value. -/
theorem ofDigitChars_padded (k : ℕ) :
    Nat.ofDigitChars 10 (if (decimalDigits k).length < 2 then '0' :: decimalDigits k
      else decimalDigits k) 0 = k := by
  split_ifs
  · rw [Nat.ofDigitChars_cons]
    simp [decimalDigits]
  · exact Nat.ofDigitChars_ten_toDigits

/-- `text` is a decimal literal of value `v` in the form that reads back: digits before the
point, digits after it, and an exponent of at most four digits. -/
def DecimalText (text : List Char) (v : ℚ) : Prop :=
  ∃ int frac exp, text = decimalLiteral int frac exp ∧ int ≠ [] ∧
    (∀ c ∈ int ++ frac, c.isDigit = true) ∧
    (∀ eneg es, exp = some (eneg, es) →
      es ≠ [] ∧ (∀ c ∈ es, c.isDigit = true) ∧ Nat.ofDigitChars 10 es 0 < 10000) ∧
    (Nat.ofDigitChars 10 (int ++ frac) 0 : ℚ) * 10 ^ (-(frac.length : ℤ) + exponentValue exp) = v

section Forms

variable {ds : List Char} (hds : ds ≠ []) (hdig : ∀ c ∈ ds, c.isDigit = true)
include hds hdig

/-- The exponent form: one digit, the rest after the point, and the exponent of the first
digit. -/
theorem exponential_decimalText {dp : ℤ} (hexp : (dp - 1).natAbs < 10000) :
    DecimalText (exponential ds dp) (Nat.ofDigitChars 10 ds 0 * 10 ^ (dp - ds.length)) := by
  obtain ⟨c, rest, rfl⟩ := List.exists_cons_of_ne_nil hds
  rw [exponential_literal]
  refine ⟨[c], rest, _, rfl, by simp, fun x hx => hdig x (by simpa using hx), ?_, ?_⟩
  · rintro eneg es ⟨-, rfl⟩
    refine ⟨by split_ifs <;> simp [decimalDigits], fun x hx => ?_, ?_⟩
    · split_ifs at hx
      · rcases List.mem_cons.mp hx with rfl | hx
        · rfl
        · exact isDigit_of_mem_decimalDigits hx
      · exact isDigit_of_mem_decimalDigits hx
    · rw [ofDigitChars_padded]
      exact hexp
  · rw [List.singleton_append]
    simp only [exponentValue, ofDigitChars_padded]
    congr 2
    simp only [List.length_cons, Nat.cast_add, Nat.cast_one]
    have h1 : 0 ≤ dp - 1 → ((dp - 1).natAbs : ℤ) = dp - 1 := Int.natAbs_of_nonneg
    have h2 : dp - 1 < 0 → ((dp - 1).natAbs : ℤ) = -(dp - 1) :=
      fun h => Int.ofNat_natAbs_of_nonpos h.le
    split_ifs with hneg <;> simp only [decide_eq_true_eq] at hneg <;> omega

/-- The positional form, split as the point falls before, within or after the digits. -/
theorem positional_decimalText (dp : ℤ) :
    DecimalText (positional ds dp) (Nat.ofDigitChars 10 ds 0 * 10 ^ (dp - ds.length)) := by
  rcases le_or_gt dp 0 with h | h
  · -- below one: zeros after the point, then the digits
    rw [positional_of_nonpos ds hds h]
    refine ⟨_, _, _, rfl, by simp, ?_, by simp, ?_⟩
    · intro x hx
      simp only [List.mem_append, List.mem_singleton, List.mem_replicate] at hx
      rcases hx with rfl | ⟨-, rfl⟩ | hx
      · rfl
      · rfl
      · exact hdig x hx
    · have h0 : Nat.ofDigitChars 10 ['0'] 0 = 0 := rfl
      rw [Nat.ofDigitChars_append, Nat.ofDigitChars_append, h0, Nat.ofDigitChars_replicate_zero,
        Nat.mul_zero]
      simp only [exponentValue, List.length_append, List.length_replicate]
      congr 2
      omega
  · rcases lt_or_ge dp ds.length with h' | h'
    · -- digits on both sides of the point
      rw [positional_of_lt ds h h']
      refine ⟨_, _, _, rfl, ?_, ?_, by simp, ?_⟩
      · simp only [ne_eq, List.take_eq_nil_iff, not_or]
        exact ⟨by omega, hds⟩
      · rw [List.take_append_drop]
        exact hdig
      · rw [List.take_append_drop]
        simp only [exponentValue, List.length_drop]
        congr 2
        omega
    · -- a whole number: the digits, then zeros
      rw [positional_of_ge ds h' hds]
      refine ⟨_, _, _, rfl, by simp [hds], ?_, by simp, ?_⟩
      · intro x hx
        simp only [List.append_nil, List.mem_append, List.mem_replicate] at hx
        rcases hx with hx | ⟨-, rfl⟩
        · exact hdig x hx
        · rfl
      · rw [List.append_nil, Nat.ofDigitChars_append, Nat.ofDigitChars_replicate_zero]
        simp only [exponentValue, List.length_nil]
        have hX : dp - ds.length = ((dp.toNat - ds.length : ℕ) : ℤ) := by omega
        rw [hX, zpow_natCast]
        push_cast
        ring

end Forms

/-- The text of a positive decimal is a decimal literal of the same value. -/
theorem generalText_literal (d : Decimal)
    (hexp : ((decimalDigits d.digits).length + d.exponent - 1).natAbs < 10000) :
    DecimalText d.generalText d.value := by
  have hds : decimalDigits d.digits ≠ [] := Nat.toDigits_ne_nil
  have hdig : ∀ c ∈ decimalDigits d.digits, c.isDigit = true :=
    fun c h => isDigit_of_mem_decimalDigits h
  -- the value of digits `ds` with the point at `dp` is `ds · 10^(dp - |ds|)`
  have hval : d.value = Nat.ofDigitChars 10 (decimalDigits d.digits) 0 *
      10 ^ ((decimalDigits d.digits).length + d.exponent - (decimalDigits d.digits).length) := by
    rw [decimalDigits, Nat.ofDigitChars_ten_toDigits, add_sub_cancel_left]
    rfl
  unfold Decimal.generalText
  simp only
  rw [hval]
  split_ifs
  · exact exponential_decimalText hds hdig hexp
  · exact positional_decimalText hds hdig _

/-! ## Reading a decimal into a format -/

theorem length_toDigits_bounds {S : ℕ} (hS : S ≠ 0) :
    10 ^ ((Nat.toDigits 10 S).length - 1) ≤ S ∧ S < 10 ^ (Nat.toDigits 10 S).length := by
  have hw : 0 < (Nat.toDigits 10 S).length := Nat.length_toDigits_pos
  refine ⟨?_, (Nat.length_toDigits_le_iff (by norm_num) hw).mp le_rfl⟩
  rcases Nat.lt_or_ge 1 (Nat.toDigits 10 S).length with h | h
  · have hk : ¬ (Nat.toDigits 10 S).length ≤ (Nat.toDigits 10 S).length - 1 := by omega
    rw [Nat.length_toDigits_le_iff (b := 10) (by norm_num) (by omega)] at hk
    omega
  · rw [show (Nat.toDigits 10 S).length - 1 = 0 by omega, pow_zero]
    omega

theorem digits_value_bounds {S : ℕ} (hS : S ≠ 0) (Y : ℤ) :
    (10 : ℚ) ^ (((Nat.toDigits 10 S).length : ℤ) - 1 + Y) ≤ S * 10 ^ Y ∧
      (S : ℚ) * 10 ^ Y < 10 ^ (((Nat.toDigits 10 S).length : ℤ) + Y) := by
  obtain ⟨h1, h2⟩ := length_toDigits_bounds hS
  have hw : 0 < (Nat.toDigits 10 S).length := Nat.length_toDigits_pos
  have hpow (k : ℕ) : (10 : ℚ) ^ ((k : ℤ) + Y) = 10 ^ k * 10 ^ Y := by
    rw [zpow_add₀ (by norm_num), zpow_natCast]
  constructor
  · calc (10 : ℚ) ^ (((Nat.toDigits 10 S).length : ℤ) - 1 + Y)
        = 10 ^ ((((Nat.toDigits 10 S).length - 1 : ℕ) : ℤ) + Y) := by congr 2; omega
      _ = 10 ^ ((Nat.toDigits 10 S).length - 1) * 10 ^ Y := hpow _
      _ ≤ S * 10 ^ Y := mul_le_mul_of_nonneg_right (by exact_mod_cast h1) (by positivity)
  · calc (S : ℚ) * 10 ^ Y < 10 ^ (Nat.toDigits 10 S).length * 10 ^ Y :=
          mul_lt_mul_of_pos_right (by exact_mod_cast h2) (by positivity)
      _ = 10 ^ (((Nat.toDigits 10 S).length : ℤ) + Y) := (hpow _).symm

theorem ne_zero_of_zpow_le {S : ℕ} {Y k : ℤ} (h : (10 : ℚ) ^ k ≤ S * 10 ^ Y) : S ≠ 0 := by
  rintro rfl
  rw [Nat.cast_zero, zero_mul] at h
  exact absurd h (not_le.mpr (zpow_pos (by norm_num) _))

/-- A decimal of at most 400 places before the point and at least 10^-401 is rounded from its
value. -/
theorem ofDecimal_eq_round (f : BinaryFormat) (neg : Bool) {S : ℕ} {Y : ℤ} (hS : S ≠ 0)
    (hhi : (S : ℚ) * 10 ^ Y < 10 ^ (400 : ℤ)) (hlo : (10 : ℚ) ^ (-401 : ℤ) ≤ S * 10 ^ Y) :
    f.ofDecimal neg S Y = f.round neg (S * (powTen Y).1) (powTen Y).2 := by
  obtain ⟨b1, b2⟩ := digits_value_bounds hS Y
  -- the decimal has `w + Y` places before the point, which the value bounds
  have hw1 : ¬ (((Nat.toDigits 10 S).length : ℤ) + Y > 400) := by
    intro h
    have := zpow_le_zpow_right₀ (by norm_num : (1 : ℚ) ≤ 10)
      (show (400 : ℤ) ≤ (Nat.toDigits 10 S).length - 1 + Y by omega)
    linarith
  have hw2 : ¬ (((Nat.toDigits 10 S).length : ℤ) + Y < -400) := by
    intro h
    have := zpow_le_zpow_right₀ (by norm_num : (1 : ℚ) ≤ 10)
      (show ((Nat.toDigits 10 S).length : ℤ) + Y ≤ -401 by omega)
    linarith
  unfold BinaryFormat.ofDecimal
  simp only
  rw [if_neg hS, if_neg hw1, if_neg hw2]
  rfl

/-! ## Single-precision texts -/

/-- Whether single-precision bits are a NaN. -/
def isNaN32 (bits : UInt32) : Bool :=
  match BinaryFormat.single.classify bits.toNat with
  | .nan _ _ => true
  | _ => false

theorem roundsTo_single_bounds {m : ℕ} {e : ℤ} {x : ℚ} (hv : BinaryFormat.single.IsValue m e)
    (hx : BinaryFormat.single.RoundsTo m e x) : (10 : ℚ) ^ (-401 : ℤ) ≤ x ∧ x < 10 ^ (400 : ℤ) := by
  obtain ⟨he1, he2⟩ := hv.single_exponent_le
  have hm : (1 : ℚ) ≤ m := by exact_mod_cast hv.pos
  have hm' : (m : ℚ) + 1 ≤ 2 ^ 24 := by exact_mod_cast hv.lt_two_pow
  have hlow := BinaryFormat.single.lowerQuarters_ge e hv.pos
  have hu1 : (2 : ℚ) ^ (-151 : ℤ) ≤ 2 ^ (e - 2) := zpow_le_zpow_right₀ (by norm_num) (by omega)
  have hu2 : (2 : ℚ) ^ (e - 2) ≤ 2 ^ (103 : ℤ) := zpow_le_zpow_right₀ (by norm_num) (by omega)
  have hu : (0 : ℚ) < 2 ^ (e - 2) := zpow_pos two_pos _
  constructor
  · calc (10 : ℚ) ^ (-401 : ℤ) ≤ 10 ^ (-50 : ℤ) := zpow_le_zpow_right₀ (by norm_num) (by norm_num)
      _ ≤ 2 * 2 ^ (-151 : ℤ) := by norm_num
      _ ≤ (BinaryFormat.single.lowerQuarters m e : ℚ) * 2 ^ (e - 2) := by nlinarith
      _ ≤ x := hx.lower_le
  · calc x ≤ (4 * m + 2 : ℚ) * 2 ^ (e - 2) := hx.le_upper
      _ ≤ 2 ^ 26 * 2 ^ (103 : ℤ) := by nlinarith
      _ < 10 ^ (40 : ℤ) := by norm_num
      _ ≤ 10 ^ (400 : ℤ) := zpow_le_zpow_right₀ (by norm_num) (by norm_num)

/-- The shortest decimal of a finite nonzero single-precision pattern, written with the
pattern's sign, reads back as the pattern. -/
theorem float_shortestDecimal {bits m : ℕ} {neg : Bool} {e : ℤ}
    (hb : bits < 2 * BinaryFormat.single.signBit)
    (hc : BinaryFormat.single.classify bits = .finite neg m e) (hm : 0 < m) :
    Literal.float BinaryFormat.single ((if neg then [0x2D] else []) ++
      (shortestDecimal BinaryFormat.single m e).generalText.flatMap Utf8.ofChar) = .ok bits := by
  obtain ⟨hbits, hv, -⟩ := BinaryFormat.single.classify_eq_finite hb hc
  have hv' := hv hm
  have hr := shortestDecimal_roundsTo hv'
  set d := shortestDecimal BinaryFormat.single m e
  obtain ⟨hlo, hhi⟩ := roundsTo_single_bounds hv' hr
  -- the decimal point lies within the places that an exponent of four digits can reach
  have hpoint : ((decimalDigits d.digits).length + d.exponent - 1).natAbs < 10000 := by
    obtain ⟨b1, b2⟩ := digits_value_bounds (ne_zero_of_zpow_le (S := d.digits) hlo) d.exponent
    have h1 := (zpow_lt_zpow_iff_right₀ (by norm_num : (1 : ℚ) < 10)).mp (lt_of_le_of_lt hlo b2)
    have h2 := (zpow_lt_zpow_iff_right₀ (by norm_num : (1 : ℚ) < 10)).mp (lt_of_le_of_lt b1 hhi)
    unfold decimalDigits
    omega
  obtain ⟨int, frac, exp, htext, hint, hdig, hexp, hval⟩ := generalText_literal d hpoint
  have hround : BinaryFormat.single.ofDecimal neg (Nat.ofDigitChars 10 (int ++ frac) 0)
      (-(frac.length : ℤ) + exponentValue exp) = bits := by
    rw [ofDecimal_eq_round _ _ (ne_zero_of_zpow_le (hval ▸ hlo)) (hval ▸ hhi) (hval ▸ hlo)]
    exact BinaryFormat.single.round_eq_of_roundsTo hb hc hm (powTen_snd_pos _)
      (by rw [cast_mul_powTen_div, hval]; exact hr)
  -- the value is finite, so the literal is read without a range error
  have hne : bits % BinaryFormat.single.signBit ≠
      BinaryFormat.single.topExponent * Nat.pow 2 BinaryFormat.single.fractionBits := by
    have hmag := hv'.magnitude_lt
    simp only [single_topExponent, single_fractionBits] at hmag
    rw [hbits]
    simp only [single_signBit, single_topExponent, single_fractionBits]
    cases neg <;> simp <;> omega
  rw [htext, float_literal _ neg hint hdig hexp (by rw [hround]; exact hne), hround]

/-- Every single-precision float that is no NaN reads back from its text as the same bits:
infinities and zeros of either sign included. -/
theorem float_singleText (bits : UInt32) (h : isNaN32 bits = false) :
    Literal.float BinaryFormat.single (Utf8.ofString (singleText bits)) = .ok bits.toNat := by
  have hb : bits.toNat < 2 * BinaryFormat.single.signBit := by
    have := bits.toNat_lt
    rw [single_signBit]
    omega
  have hsign (neg : Bool) : Utf8.ofString (if neg then "-" else "") = if neg then [0x2D] else [] := by
    cases neg <;> rfl
  unfold singleText floatText
  cases hc : BinaryFormat.single.classify bits.toNat with
  | nan neg payload => simp [isNaN32, hc] at h
  | infinite neg =>
    rw [BinaryFormat.single.classify_eq_infinite hb hc]
    cases neg <;> rfl
  | finite neg m e =>
    obtain ⟨hbits, -, hz⟩ := BinaryFormat.single.classify_eq_finite hb hc
    simp only
    by_cases hm : m = 0
    · -- a zero is written `0`, which reads back as the zero of its sign
      subst hm
      have he := hz rfl
      subst he
      rw [if_pos rfl, Utf8.ofString_append, hsign,
        show Utf8.ofString "0" = (decimalLiteral ['0'] [] none).flatMap Utf8.ofChar from rfl]
      have hround : BinaryFormat.single.ofDecimal neg (Nat.ofDigitChars 10 (['0'] ++ []) 0)
          (-(([] : List Char).length : ℤ) + exponentValue none) = bits.toNat := by
        rw [hbits]
        cases neg <;> rfl
      rw [float_literal _ neg (by simp) (by simp) (by simp) (by rw [hround, hbits]; cases neg <;> decide), hround]
    · -- otherwise the shortest decimal is written
      rw [if_neg hm, Utf8.ofString_append, hsign, Utf8.ofString_ofList]
      exact float_shortestDecimal hb hc (Nat.pos_of_ne_zero hm)

end SoundControl
