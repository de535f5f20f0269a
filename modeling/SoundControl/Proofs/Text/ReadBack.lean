import SoundControl.Number.Literal
import SoundControl.Text.Hex
import Mathlib

/-! # Texts that read back

The decimal text of a 32-bit integer and the hex text of a byte string read back as what they
were written from (`Literal.integer_toString`, `Hex.decode_ofString_encode`). -/

namespace SoundControl

/-! ## Text as bytes -/

namespace Utf8

theorem ofString_append (s t : String) : ofString (s ++ t) = ofString s ++ ofString t := by
  simp [ofString]

theorem ofString_ofList (cs : List Char) : ofString (String.ofList cs) = cs.flatMap ofChar := by
  simp [ofString]

/-- A character below U+0080 is one byte, its code. -/
theorem ofChar_of_lt {c : Char} (h : c.toNat < 0x80) : ofChar c = [c.toNat.toUInt8] := by
  simp [ofChar, ofScalar, h]

theorem ofChar_digitChar {d : Nat} (hd : d < 10) :
    ofChar (Nat.digitChar d) = [(48 + d).toUInt8] := by
  rw [ofChar_of_lt (by rw [Nat.toNat_digitChar_of_lt_ten hd]; omega),
    Nat.toNat_digitChar_of_lt_ten hd]

theorem flatMap_ofChar_digitChar {ds : List Nat} (hlt : ∀ d ∈ ds, d < 10) :
    ds.flatMap (fun d => ofChar (Nat.digitChar d)) = ds.map fun d => (48 + d).toUInt8 := by
  induction ds with
  | nil => rfl
  | cons d rest ih =>
    rw [List.flatMap_cons, ofChar_digitChar (hlt d (by simp)), List.map_cons,
      ih (fun d' hd' => hlt d' (by simp [hd']))]
    rfl

end Utf8

/-! ## Decimal integers -/

/-- The decimal digits of a number, most significant first, as numbers: their characters are
the text of the number, their value is the number, and only zero starts with a zero. -/
theorem toDigits_ten (n : Nat) :
    ∃ ds : List Nat, Nat.toDigits 10 n = ds.map Nat.digitChar ∧ (∀ d ∈ ds, d < 10) ∧
      ds.foldl (fun a d => a * 10 + d) 0 = n ∧ (ds.head? = some 0 → n = 0) := by
  -- the last digit comes off the end: the digits of `n` are those of `n / 10`, then `n % 10`
  induction n using Nat.strong_induction_on with
  | _ n ih =>
    by_cases hn : n < 10
    · exact ⟨[n], Nat.toDigits_of_lt_base hn, by simpa using hn, by simp, by simp⟩
    · obtain ⟨ds, hds, hlt, hval, hhead⟩ := ih (n / 10) (by omega)
      have hsplit := Nat.toDigits_append_toDigits (b := 10) (n := n / 10) (d := n % 10)
        (by decide) (by omega) (Nat.mod_lt _ (by decide))
      rw [Nat.toDigits_of_lt_base (Nat.mod_lt _ (by decide)), Nat.div_add_mod] at hsplit
      refine ⟨ds ++ [n % 10], ?_, ?_, ?_, ?_⟩
      · rw [← hsplit, hds, List.map_append, List.map_singleton]
      · intro d hd
        rcases List.mem_append.mp hd with h | h
        · exact hlt d h
        · simp only [List.mem_singleton] at h
          omega
      · rw [List.foldl_append, hval]
        simp only [List.foldl_cons, List.foldl_nil]
        omega
      · intro h0
        cases ds with
        | nil => simp at hval; omega
        | cons d rest =>
          simp only [List.cons_append, List.head?_cons, Option.some.injEq] at h0
          simp at hhead
          omega

/-- The bytes of the decimal text of a number are its digits' ASCII codes. -/
theorem Utf8.ofString_toString_nat {n : Nat} {ds : List Nat}
    (hds : Nat.toDigits 10 n = ds.map Nat.digitChar) (hlt : ∀ d ∈ ds, d < 10) :
    Utf8.ofString (toString n) = ds.map fun d => (48 + d).toUInt8 := by
  rw [show toString n = String.ofList (Nat.toDigits 10 n) from Nat.repr_eq_ofList_toDigits,
    Utf8.ofString_ofList, hds, List.flatMap_map, Utf8.flatMap_ofChar_digitChar hlt]

/-- The decimal text of a number starts with a digit. -/
theorem Utf8.ofString_toString_nat_cons (k : Nat) :
    ∃ d rest, Utf8.ofString (toString k) = (48 + d).toUInt8 :: rest ∧ d < 10 := by
  obtain ⟨ds, hds, hlt, -, -⟩ := toDigits_ten k
  rw [Utf8.ofString_toString_nat hds hlt]
  cases ds with
  | nil => exact absurd hds (by simp [Nat.toDigits_ne_nil])
  | cons d rest => exact ⟨d, _, rfl, hlt d (by simp)⟩

/-- A digit's byte is no underscore, is a digit to the reader, and stands for the digit. -/
theorem digitByte_facts {d : Nat} (hd : d < 10) :
    (48 + d).toUInt8 ≠ 0x5F ∧ Literal.isDigit (48 + d).toUInt8 = true ∧
      ((48 + d).toUInt8 - 0x30).toNat = d := by
  interval_cases d <;> exact ⟨by decide, rfl, rfl⟩

theorem decimalBytes_not_underscore {ds : List Nat} (hlt : ∀ d ∈ ds, d < 10) :
    (ds.map fun d => (48 + d).toUInt8).contains 0x5F = false := by
  rw [Bool.eq_false_iff]
  intro h
  obtain ⟨d, hd, h5⟩ := List.mem_map.mp (List.contains_iff_mem.mp h)
  exact (digitByte_facts (hlt d hd)).1 h5

theorem le_foldl_decimal (acc : Nat) (ds : List Nat) :
    acc ≤ ds.foldl (fun a d => a * 10 + d) acc := by
  induction ds generalizing acc with
  | nil => exact Nat.le_refl acc
  | cons d rest ih =>
    have := ih (acc * 10 + d)
    simp only [List.foldl_cons]
    omega

/-- Decimal digits are read as their value when it is within the bound. -/
theorem Literal.digits_decimal (maxVal : Nat) (skip : Bool) (acc : Nat) (ds : List Nat)
    (hlt : ∀ d ∈ ds, d < 10) (hmax : ds.foldl (fun a d => a * 10 + d) acc ≤ maxVal) :
    Literal.digits 10 maxVal skip acc (ds.map fun d => (48 + d).toUInt8) =
      .ok (ds.foldl (fun a d => a * 10 + d) acc) := by
  induction ds generalizing acc with
  | nil => rfl
  | cons d rest ih =>
    obtain ⟨hu, hdig, hval⟩ := digitByte_facts (hlt d (by simp))
    have hd : d < 10 := hlt d (by simp)
    -- every value read so far is at most the final one, so no step overflows
    have hstep : acc * 10 + d ≤ maxVal :=
      Nat.le_trans (le_foldl_decimal _ rest) hmax
    rw [List.map_cons, Literal.digits]
    simp only [beq_eq_false_iff_ne.mpr hu, Bool.and_false, Bool.false_eq_true, if_false, hdig,
      if_true, hval]
    rw [if_neg (by omega), if_neg (by omega)]
    exact ih (acc * 10 + d) (fun d' hd' => hlt d' (by simp [hd'])) hmax

/-- The decimal text of a number below `2^32` reads back as the number. -/
theorem Literal.unsigned_decimal {k : Nat} (hk : k < 2 ^ 32) :
    Literal.unsigned 32 (Utf8.ofString (toString k)) = .ok k := by
  rcases Nat.eq_zero_or_pos k with rfl | hk0
  · rfl
  obtain ⟨ds, hds, hlt, hval, hhead⟩ := toDigits_ten k
  have hdig : Literal.digits 10 (Nat.pow 2 32 - 1) true 0 (ds.map fun d => (48 + d).toUInt8) =
      .ok k := by
    rw [Literal.digits_decimal _ _ _ _ hlt (by rw [hval]; exact Nat.le_pred_of_lt hk), hval]
  rw [Utf8.ofString_toString_nat hds hlt]
  cases ds with
  | nil => simp at hval; omega
  | cons d rest =>
    have hd0 : d ≠ 0 := fun h => by have := hhead (by simp [h]); omega
    have hd : d < 10 := hlt d (by simp)
    -- a first digit other than zero means no base prefix: the text is read in base ten
    have hne : (48 + d).toUInt8 ≠ 0x30 := by interval_cases d <;> simp_all
    have hc := decimalBytes_not_underscore hlt
    rw [List.map_cons] at hdig hc
    rw [Literal.unsigned]
    simp only [List.map_cons, List.isEmpty_cons, Bool.false_eq_true, if_false]
    split
    next e he =>
      rw [hdig] at he
      cases he
    next n hn =>
      rw [hdig, Except.ok.injEq] at hn
      simp only [hc, Bool.false_and, Bool.false_eq_true, if_false, hn]
    · intro p c r h
      exact hne (List.cons.inj h).1
    · intro r h
      exact hne (List.cons.inj h).1

/-- The decimal text of a 32-bit integer reads back as the integer, the least one included. -/
theorem Literal.integer_toString (v : Int32) :
    Literal.integer 32 (Utf8.ofString (toString v.toInt)) = .ok v.toInt := by
  have hlo := Int32.le_toInt v
  have hhi := Int32.toInt_lt v
  cases h : v.toInt with
  | ofNat k =>
    have hk : k < 2 ^ 31 := by rw [h, Int.ofNat_eq_natCast] at hhi; omega
    obtain ⟨d, rest, hs, hd⟩ := Utf8.ofString_toString_nat_cons k
    have hsign : ((48 + d).toUInt8 == 0x2B) = false ∧ ((48 + d).toUInt8 == 0x2D) = false := by
      interval_cases d <;> exact ⟨rfl, rfl⟩
    show Literal.integer 32 (Utf8.ofString (toString k)) = .ok k
    have hu := Literal.unsigned_decimal (k := k) (by omega)
    rw [hs] at hu ⊢
    simp only [Literal.integer, hsign, Bool.false_eq_true, if_false, hu]
    rw [if_neg (by simp; omega), if_neg (by simp)]
  | negSucc k =>
    -- a minus sign, then the magnitude, which may be `2^31`
    have hk : k + 1 ≤ 2 ^ 31 := by rw [h] at hlo; simp at hlo; omega
    show Literal.integer 32 (Utf8.ofString ("-" ++ toString (k + 1))) = .ok (Int.negSucc k)
    have hu := Literal.unsigned_decimal (k := k + 1) (by omega)
    rw [Utf8.ofString_append, show Utf8.ofString "-" = [0x2D] from rfl, List.singleton_append]
    simp only [Literal.integer, show ((0x2D : UInt8) == 0x2B) = false from rfl,
      show ((0x2D : UInt8) == 0x2D) = true from rfl, Bool.false_eq_true, if_false, if_true, hu]
    rw [if_neg (by simp), if_neg (by simp; omega)]
    rfl

/-! ## Hex bytes -/

/-- A hex digit is one byte, which reads back as the digit. -/
theorem Hex.ofChar_hexDigit {d : Nat} (hd : d < 16) :
    ∃ c, Utf8.ofChar (Quoted.hexDigit d) = [c] ∧ Hex.digit? c = some d := by
  interval_cases d <;> exact ⟨_, rfl, rfl⟩

/-- The hex text of a byte string starts with the two digits of its first byte. -/
theorem Hex.ofString_encode_cons (b : UInt8) (bs : Bytes) :
    ∃ c1 c2, Utf8.ofString (Hex.encode (b :: bs)) = c1 :: c2 :: Utf8.ofString (Hex.encode bs) ∧
      Hex.digit? c1 = some (b.toNat / 16) ∧ Hex.digit? c2 = some (b.toNat % 16) := by
  have hb := b.toNat_lt
  obtain ⟨c1, h1, d1⟩ := Hex.ofChar_hexDigit (d := b.toNat / 16) (by omega)
  obtain ⟨c2, h2, d2⟩ := Hex.ofChar_hexDigit (d := b.toNat % 16) (by omega)
  refine ⟨c1, c2, ?_, d1, d2⟩
  have hdigits : Quoted.hexDigits 2 b.toNat =
      [Quoted.hexDigit (b.toNat / 16), Quoted.hexDigit (b.toNat % 16)] := by
    simp [Quoted.hexDigits, List.range_succ, Nat.mod_eq_of_lt (show b.toNat / 16 < 16 by omega)]
  rw [Hex.encode, Hex.encode, Utf8.ofString_ofList, Utf8.ofString_ofList, List.flatMap_cons,
    hdigits, List.flatMap_append]
  simp [h1, h2]

/-- Hex text reads back as the bytes it was written from. -/
theorem Hex.decode_ofString_encode (bs : Bytes) :
    Hex.decode (Utf8.ofString (Hex.encode bs)) = .ok bs := by
  induction bs with
  | nil => rfl
  | cons b bs ih =>
    obtain ⟨c1, c2, he, d1, d2⟩ := Hex.ofString_encode_cons b bs
    have hb : (b.toNat / 16 * 16 + b.toNat % 16).toUInt8 = b := by
      rw [show b.toNat / 16 * 16 + b.toNat % 16 = b.toNat by omega]
      simp
    rw [he, Hex.decode, d1, d2, ih]
    simp [Except.map, hb]

end SoundControl
