import SoundControl.Codec
import Mathlib.Data.Nat.Bitwise

/-! # Equations of the wire primitives

One spec lemma for each reader and writer of the wire form, from which the codec's round trips
are built. -/

namespace SoundControl

/-! ## Steps that can fail -/

theorem Except.bind_eq_ok {ε α β : Type} {x : Except ε α} {f : α → Except ε β} {b : β} :
    x >>= f = .ok b ↔ ∃ a, x = .ok a ∧ f a = .ok b := by
  cases x <;> simp [bind, Except.bind]

theorem Except.map_eq_ok {ε α β : Type} {x : Except ε α} {f : α → β} {b : β} :
    x.map f = .ok b ↔ ∃ a, x = .ok a ∧ f a = b := by
  cases x <;> simp [Except.map]

/-! ## Words -/

namespace Bytes

theorem testBit_toNat_of_le (a : UInt8) {k : Nat} (hk : 8 ≤ k) : a.toNat.testBit k = false :=
  Nat.testBit_lt_two_pow (Nat.lt_of_lt_of_le a.toNat_lt (Nat.pow_le_pow_right (by decide) hk))

/-- A 32-bit word read from four bytes is their big-endian value. -/
theorem word32_toNat (a b c d : UInt8) :
    (word32 a b c d).toNat =
      2 ^ 8 * (2 ^ 8 * (2 ^ 8 * a.toNat + b.toNat) + c.toNat) + d.toNat := by
  simp only [word32, UInt32.toNat_or, UInt32.toNat_shiftLeft, UInt8.toNat_toUInt32,
    UInt32.reduceToNat, Nat.reduceMod]
  apply Nat.eq_of_testBit_eq
  intro j
  rw [Nat.testBit_two_pow_mul_add _ d.toNat_lt, Nat.testBit_two_pow_mul_add _ c.toNat_lt,
    Nat.testBit_two_pow_mul_add _ b.toNat_lt]
  simp only [Nat.testBit_or, Nat.testBit_mod_two_pow, Nat.testBit_shiftLeft]
  -- each bit of the word comes from exactly one byte; the others are zero there
  have := testBit_toNat_of_le a (k := j - 24)
  have := testBit_toNat_of_le b (k := j - 16)
  have := testBit_toNat_of_le c (k := j - 8)
  have := testBit_toNat_of_le d (k := j)
  split <;> grind

theorem word32_ofWord32 (w : UInt32) :
    word32 (w >>> 24).toUInt8 (w >>> 16).toUInt8 (w >>> 8).toUInt8 w.toUInt8 = w := by
  apply UInt32.toNat_inj.mp
  rw [word32_toNat]
  simp only [UInt32.toNat_toUInt8, UInt32.toNat_shiftRight, UInt32.reduceToNat, Nat.reduceMod,
    Nat.shiftRight_eq_div_pow]
  have := w.toNat_lt
  omega

theorem ofWord32_word32 (a b c d : UInt8) : ofWord32 (word32 a b c d) = [a, b, c, d] := by
  have h := word32_toNat a b c d
  have ha := a.toNat_lt
  have hb := b.toNat_lt
  have hc := c.toNat_lt
  have hd := d.toNat_lt
  simp only [ofWord32, List.cons.injEq, and_true]
  refine ⟨?_, ?_, ?_, ?_⟩ <;>
  · apply UInt8.toNat_inj.mp
    simp only [UInt32.toNat_toUInt8, UInt32.toNat_shiftRight, UInt32.reduceToNat,
      Nat.reduceMod, Nat.shiftRight_eq_div_pow, h]
    omega

theorem ofWord32_inj {w w' : UInt32} (h : ofWord32 w = ofWord32 w') : w = w' := by
  rw [← word32_ofWord32 w, ← word32_ofWord32 w']
  simp only [ofWord32, List.cons.injEq] at h
  rw [h.1, h.2.1, h.2.2.1, h.2.2.2.1]

theorem testBit_toNat_of_le' (a : UInt32) {k : Nat} (hk : 32 ≤ k) : a.toNat.testBit k = false :=
  Nat.testBit_lt_two_pow (Nat.lt_of_lt_of_le a.toNat_lt (Nat.pow_le_pow_right (by decide) hk))

/-- A 64-bit word read from two 32-bit halves is their big-endian value. -/
theorem word64_toNat (hi lo : UInt32) : (word64 hi lo).toNat = 2 ^ 32 * hi.toNat + lo.toNat := by
  simp only [word64, UInt64.toNat_or, UInt64.toNat_shiftLeft, UInt32.toNat_toUInt64,
    UInt64.reduceToNat, Nat.reduceMod]
  apply Nat.eq_of_testBit_eq
  intro j
  rw [Nat.testBit_two_pow_mul_add _ lo.toNat_lt]
  simp only [Nat.testBit_or, Nat.testBit_mod_two_pow, Nat.testBit_shiftLeft]
  have := testBit_toNat_of_le' hi (k := j - 32)
  have := testBit_toNat_of_le' lo (k := j)
  split <;> grind

theorem ofWord64_word64 (hi lo : UInt32) :
    ofWord64 (word64 hi lo) = ofWord32 hi ++ ofWord32 lo := by
  have h := word64_toNat hi lo
  have hh := hi.toNat_lt
  have hl := lo.toNat_lt
  have e1 : (word64 hi lo >>> 32).toUInt32 = hi := by
    apply UInt32.toNat_inj.mp
    simp only [UInt64.toNat_toUInt32, UInt64.toNat_shiftRight, UInt64.reduceToNat, Nat.reduceMod,
      Nat.shiftRight_eq_div_pow, h]
    omega
  have e2 : (word64 hi lo).toUInt32 = lo := by
    apply UInt32.toNat_inj.mp
    simp only [UInt64.toNat_toUInt32, h]
    omega
  rw [ofWord64, e1, e2]

theorem word64_ofWord64 (w : UInt64) :
    word64 (w >>> 32).toUInt32 w.toUInt32 = w := by
  apply UInt64.toNat_inj.mp
  rw [word64_toNat]
  simp only [UInt64.toNat_toUInt32, UInt64.toNat_shiftRight, UInt64.reduceToNat, Nat.reduceMod,
    Nat.shiftRight_eq_div_pow]
  have := w.toNat_lt
  omega

theorem padding_le_three (n : Nat) : padding n ≤ 3 := by
  unfold padding; omega

end Bytes

/-! ## Type tags -/

/-- The byte of an argument's type tag letter. -/
def Argument.tagByte : Argument → UInt8
  | .int32 _ => 0x69
  | .float32 _ => 0x66
  | .string _ => 0x73
  | .blob _ => 0x62

@[simp] theorem Argument.tagByte_ne_zero (a : Argument) : a.tagByte ≠ 0 := by
  cases a <;> simp [Argument.tagByte]

theorem Argument.ofChar_tag (a : Argument) : Utf8.ofChar a.tag = [a.tagByte] := by
  cases a <;> rfl

/-- Bytes below `0x80` are each a one-byte scalar value, so any string of them is valid text. -/
theorem Utf8.valid_of_lt {bs : Bytes} (h : ∀ b ∈ bs, b < 0x80) : Utf8.valid bs = true := by
  induction bs with
  | nil => rw [Utf8.valid, Utf8.pieces]; rfl
  | cons b bs ih =>
    have hb : b < 0x80 := h b (List.mem_cons_self ..)
    have hs : Utf8.scalar? (b :: bs) = some (b.toNat, 1) := by simp [Utf8.scalar?, hb]
    have ht := ih fun c hc => h c (List.mem_cons_of_mem _ hc)
    simp only [Utf8.valid, List.all_eq_true] at ht ⊢
    rw [Utf8.pieces, hs]
    simpa [Utf8.Piece.isScalar] using ht

/-- The type tag string of a list of arguments is a comma and one tag byte per argument. -/
theorem Utf8.ofString_tags (as : List Argument) :
    Utf8.ofString (String.ofList (',' :: as.map Argument.tag)) =
      0x2C :: as.map Argument.tagByte := by
  have hc : Utf8.ofChar ',' = [0x2C] := rfl
  simp only [Utf8.ofString, String.toList_ofList, List.flatMap_cons, List.flatMap_map,
    Argument.ofChar_tag, hc, List.cons_append, List.nil_append, List.cons.injEq, true_and]
  induction as with
  | nil => rfl
  | cons a as ih => simp [ih]

theorem Argument.tagByte_lt (a : Argument) : a.tagByte < 0x80 := by
  cases a <;> simp only [Argument.tagByte] <;> decide

/-- A type tag string is a comma and ASCII letters, so it is valid text. -/
theorem Utf8.valid_tags (as : List Argument) :
    Utf8.valid (0x2C :: as.map Argument.tagByte) = true := by
  apply Utf8.valid_of_lt
  simp only [List.mem_cons, List.mem_map]
  rintro b (rfl | ⟨a, -, rfl⟩)
  · decide
  · exact a.tagByte_lt

/-! ## Splitting at a NUL -/

/-- The first NUL of a byte string splits it into a NUL-free string, the NUL and the rest. -/
theorem idxOf?_zero_eq_some {bs : Bytes} {pos : Nat} :
    bs.idxOf? 0 = some pos ↔ ∃ s t, bs = s ++ 0 :: t ∧ 0 ∉ s ∧ s.length = pos := by
  induction bs generalizing pos with
  | nil => simp
  | cons b bs ih =>
    rw [List.idxOf?_cons]
    by_cases hb : b = 0
    · subst hb
      constructor
      · intro h
        simp only [beq_self_eq_true, if_true, Option.some.injEq] at h
        exact ⟨[], bs, rfl, List.not_mem_nil, h⟩
      · rintro ⟨s, t, h, hs, rfl⟩
        cases s with
        | nil => rfl
        | cons c s =>
          simp only [List.cons_append, List.cons.injEq, List.mem_cons, not_or] at h hs
          exact absurd h.1 hs.1
    · simp only [beq_iff_eq, hb, if_false, Option.map_eq_some_iff]
      constructor
      · rintro ⟨k, hk, rfl⟩
        obtain ⟨s, t, rfl, hs, rfl⟩ := ih.mp hk
        exact ⟨b :: s, t, rfl, by simp [hs, Ne.symm hb], rfl⟩
      · rintro ⟨s, t, h, hs, rfl⟩
        cases s with
        | nil =>
          simp only [List.nil_append, List.cons.injEq] at h
          exact absurd h.1 hb
        | cons c s =>
          simp only [List.cons_append, List.cons.injEq, List.mem_cons, not_or] at h hs
          obtain ⟨rfl, rfl⟩ := h
          exact ⟨s.length, ih.mpr ⟨s, t, rfl, hs.2, rfl⟩, rfl⟩

theorem take_append_cons (s t : Bytes) (b : UInt8) (k : Nat) :
    (s ++ b :: t).take (s.length + 1 + k) = s ++ b :: t.take k := by
  induction s with
  | nil => simp [Nat.add_comm 1]
  | cons x s ih => simp [Nat.add_right_comm _ 1, ← ih]

theorem drop_append_cons (s t : Bytes) (b : UInt8) (k : Nat) :
    (s ++ b :: t).drop (s.length + 1 + k) = t.drop k := by
  induction s with
  | nil => simp [Nat.add_comm 1]
  | cons x s ih => simp [Nat.add_right_comm _ 1, ← ih]

namespace Wire.Decode

theorem firstNonZero?_eq_none {xs : Bytes} :
    firstNonZero? xs = none ↔ xs = Bytes.zeros xs.length := by
  simp [firstNonZero?, Bytes.zeros, List.eq_replicate_iff]

@[simp] theorem firstNonZero?_zeros (n : Nat) : firstNonZero? (Bytes.zeros n) = none := by
  simp [firstNonZero?_eq_none]

/-! ## Reading fields -/

theorem word32_eq_ok {stop : Nat} {field : String} {bs r : Bytes} {w : UInt32} :
    word32 stop field bs = .ok (w, r) ↔ bs = Bytes.ofWord32 w ++ r := by
  constructor
  · intro h
    match bs, h with
    | a :: b :: c :: d :: rest, h =>
      simp only [word32, Except.ok.injEq, Prod.mk.injEq] at h
      obtain ⟨rfl, rfl⟩ := h
      rw [Bytes.ofWord32_word32]
      rfl
  · rintro rfl
    simp only [Bytes.ofWord32, List.cons_append, List.nil_append, word32, Bytes.word32_ofWord32]

theorem word64_eq_ok {stop : Nat} {field : String} {bs r : Bytes} {w : UInt64} :
    word64 stop field bs = .ok (w, r) ↔ bs = Bytes.ofWord64 w ++ r := by
  constructor
  · intro h
    match bs, h with
    | a :: b :: c :: d :: e :: f :: g :: k :: rest, h =>
      simp only [word64, Except.ok.injEq, Prod.mk.injEq] at h
      obtain ⟨rfl, rfl⟩ := h
      rw [Bytes.ofWord64_word64, Bytes.ofWord32_word32, Bytes.ofWord32_word32]
      rfl
  · rintro rfl
    simp only [Bytes.ofWord64, Bytes.ofWord32, List.cons_append, List.nil_append, word64,
      Bytes.word32_ofWord32, Bytes.word64_ofWord64]

/-- The string reader on a NUL-free string, its NUL and what follows. -/
theorem paddedString_nul {stop : Nat} {field : String} {s t : Bytes} (hs : 0 ∉ s) :
    paddedString stop field (s ++ 0 :: t) =
      if t.length < Bytes.padding (s.length + 1) then
        .error (decodeError (stop - (s ++ 0 :: t).length) .unexpectedEnd
          (field ++ ": padding truncated"))
      else
        match firstNonZero? (t.take (Bytes.padding (s.length + 1))) with
        | some i => .error (decodeError (stop - (s ++ 0 :: t).length + s.length + 1 + i)
            .malformedPadding (field ++ ": non-zero padding byte"))
        | none => .ok (s, t.drop (Bytes.padding (s.length + 1))) := by
  have hpos : (s ++ 0 :: t).idxOf? 0 = some s.length :=
    idxOf?_zero_eq_some.mpr ⟨s, t, rfl, hs, rfl⟩
  simp only [paddedString, hpos, List.length_append, List.length_cons, take_append_cons,
    drop_append_cons, List.take_left]
  have hw : List.drop (s.length + 1) (s ++ 0 :: t.take (Bytes.padding (s.length + 1))) =
      t.take (Bytes.padding (s.length + 1)) := by
    rw [List.append_cons, show s.length + 1 = (s ++ [0]).length by simp, List.drop_left]
  simp only [hw]
  congr 1
  simp only [eq_iff_iff]
  omega

/-- The string reader succeeds exactly on a NUL-free string followed by its NUL and the fewest
NULs that reach a multiple of four. -/
theorem paddedString_eq_ok {stop : Nat} {field : String} {bs s r : Bytes} :
    paddedString stop field bs = .ok (s, r) ↔
      0 ∉ s ∧ bs = s ++ Bytes.zeros (1 + Bytes.padding (s.length + 1)) ++ r := by
  constructor
  · intro h
    cases hpos : bs.idxOf? 0 with
    | none => simp [paddedString, hpos] at h
    | some pos =>
      obtain ⟨u, t, rfl, hu, rfl⟩ := idxOf?_zero_eq_some.mp hpos
      rw [paddedString_nul hu] at h
      split at h
      · cases h
      rename_i hlen
      split at h
      · cases h
      rename_i hz
      simp only [Except.ok.injEq, Prod.mk.injEq] at h
      obtain ⟨rfl, rfl⟩ := h
      rw [firstNonZero?_eq_none, List.length_take_of_le (by omega)] at hz
      refine ⟨hu, ?_⟩
      rw [Nat.add_comm 1, Bytes.zeros, List.replicate_succ, List.append_assoc, List.cons_append,
        ← Bytes.zeros, ← hz, List.take_append_drop]
  · rintro ⟨hs, rfl⟩
    have e : s ++ Bytes.zeros (1 + Bytes.padding (s.length + 1)) ++ r =
        s ++ 0 :: (Bytes.zeros (Bytes.padding (s.length + 1)) ++ r) := by
      simp [Bytes.zeros, Nat.add_comm 1, List.replicate_succ]
    rw [e, paddedString_nul hs]
    simp

theorem text_eq_ok {stop : Nat} {field : String} {bs s r : Bytes} :
    text stop field bs = .ok (s, r) ↔
      Utf8.valid s ∧ paddedString stop field bs = .ok (s, r) := by
  unfold text
  cases h : paddedString stop field bs with
  | error e => simp [bind, Except.bind]
  | ok v =>
    obtain ⟨s', r'⟩ := v
    simp only [bind, Except.bind, Except.ok.injEq, Prod.mk.injEq]
    split <;> rename_i hv
    · simp only [pure, Except.pure, Except.ok.injEq, Prod.mk.injEq]
      constructor
      · rintro ⟨rfl, rfl⟩
        exact ⟨hv, rfl, rfl⟩
      · rintro ⟨-, rfl, rfl⟩
        exact ⟨rfl, rfl⟩
    · simp only [reduceCtorEq, false_iff, not_and]
      rintro hs rfl rfl
      exact hv hs

theorem take_eq_ok {stop n : Nat} {field : String} {bs a r : Bytes} :
    take stop n field bs = .ok (a, r) ↔ a.length = n ∧ bs = a ++ r := by
  unfold take
  split <;> rename_i hn
  · simp only [Except.ok.injEq, Prod.mk.injEq]
    constructor
    · rintro ⟨rfl, rfl⟩
      exact ⟨List.length_take_of_le hn, (List.take_append_drop n bs).symm⟩
    · rintro ⟨rfl, rfl⟩
      simp
  · simp only [reduceCtorEq, false_iff, not_and]
    rintro rfl rfl
    simp at hn

theorem skipPadding_eq_ok {stop n : Nat} {field : String} {bs r : Bytes} :
    skipPadding stop n field bs = .ok r ↔ bs = Bytes.zeros (Bytes.padding n) ++ r := by
  unfold skipPadding
  cases h : take stop (Bytes.padding n) (field ++ " padding") bs with
  | error e =>
    simp only [bind, Except.bind, reduceCtorEq, false_iff]
    rintro rfl
    simp [take] at h
  | ok v =>
    obtain ⟨pad, rest⟩ := v
    obtain ⟨hlen, rfl⟩ := take_eq_ok.mp h
    simp only [bind, Except.bind]
    split <;> rename_i hz
    · simp only [reduceCtorEq, false_iff]
      intro he
      have hp : pad = Bytes.zeros (Bytes.padding n) :=
        List.append_inj_left he (by simp [hlen])
      simp [hp] at hz
    · rw [firstNonZero?_eq_none, hlen] at hz
      simp only [pure, Except.pure, Except.ok.injEq, hz]
      constructor
      · rintro rfl
        rfl
      · exact List.append_cancel_left

/-- The blob reader succeeds exactly on a length word, that many bytes and their padding. -/
theorem blob_eq_ok {stop : Nat} {bs d r : Bytes} :
    blob stop bs = .ok (d, r) ↔
      ∃ w : UInt32, w.toNat = d.length ∧
        bs = Bytes.ofWord32 w ++ d ++ Bytes.zeros (Bytes.padding d.length) ++ r := by
  unfold blob
  cases h : word32 stop "blob length" bs with
  | error e =>
    simp only [bind, Except.bind, reduceCtorEq, false_iff, not_exists, not_and]
    rintro w - rfl
    simp [word32, Bytes.ofWord32] at h
  | ok v =>
    obtain ⟨w, rest⟩ := v
    obtain rfl := word32_eq_ok.mp h
    simp only [bind, Except.bind]
    split <;> rename_i hlen
    · simp only [reduceCtorEq, false_iff, not_exists, not_and]
      intro w' hw' he
      rw [List.append_assoc, List.append_assoc] at he
      obtain ⟨hw, rfl⟩ := List.append_inj he (by simp)
      obtain rfl : w = w' := by simpa using Bytes.ofWord32_inj hw
      simp at hlen
      omega
    · cases hp : skipPadding stop w.toNat "blob" (rest.drop w.toNat) with
      | error e =>
        simp only [reduceCtorEq, false_iff, not_exists, not_and]
        intro w' hw' he
        rw [List.append_assoc, List.append_assoc] at he
        obtain ⟨hw, rfl⟩ := List.append_inj he (by simp)
        obtain rfl : w = w' := Bytes.ofWord32_inj hw
        rw [List.drop_left' hw'.symm, hw', skipPadding_eq_ok.mpr rfl] at hp
        cases hp
      | ok after =>
        have hrest := skipPadding_eq_ok.mp hp
        have htake : (rest.take w.toNat).length = w.toNat := List.length_take_of_le (by omega)
        simp only [pure, Except.pure, Except.ok.injEq, Prod.mk.injEq]
        constructor
        · rintro ⟨rfl, rfl⟩
          refine ⟨w, htake.symm, ?_⟩
          rw [htake, List.append_assoc, List.append_assoc, ← hrest, List.take_append_drop]
        · rintro ⟨w', hw', he⟩
          rw [List.append_assoc, List.append_assoc] at he
          obtain ⟨hw, rfl⟩ := List.append_inj he (by simp)
          obtain rfl : w = w' := Bytes.ofWord32_inj hw
          rw [List.drop_left' hw'.symm, hw'] at hrest
          rw [List.take_left' hw'.symm]
          exact ⟨rfl, (List.append_cancel_left hrest).symm⟩

end Wire.Decode

/-! ## Writing fields -/

namespace Wire.Encode

theorem checkSize_eq_ok {n : Nat} {what : String} {u : Unit} :
    checkSize n what = .ok u ↔ n ≤ maxSize := by
  unfold checkSize
  split <;> simp <;> omega

/-- A size that a size field holds comes back unchanged from its 32-bit word. -/
theorem toNat_toUInt32_of_le {n : Nat} (h : n ≤ maxSize) : n.toUInt32.toNat = n := by
  simp only [maxSize] at h
  simp only [Nat.toUInt32_eq, UInt32.toNat_ofNat']
  omega

/-- The string writer succeeds exactly on NUL-free valid text that a size field can hold, and
writes it with its NUL and padding. -/
theorem paddedString_eq_ok {s e : Bytes} :
    paddedString s = .ok e ↔
      0 ∉ s ∧ Utf8.valid s ∧ s.length ≤ maxSize ∧
        e = s ++ Bytes.zeros (1 + Bytes.padding (s.length + 1)) := by
  unfold paddedString
  simp only [List.contains_iff_mem]
  by_cases h0 : 0 ∈ s
  · simp [h0]
  by_cases hv : Utf8.valid s
  · cases hc : checkSize s.length "string" with
    | error err =>
      have hm : ¬ s.length ≤ maxSize := fun h => by
        rw [(checkSize_eq_ok (u := ())).mpr h] at hc
        cases hc
      simp [h0, hv, bind, Except.bind, hm]
    | ok u =>
      have hm := checkSize_eq_ok.mp hc
      simp [h0, hv, hm, bind, Except.bind, pure, Except.pure, eq_comm]
  · simp [h0, hv]

/-- The blob writer succeeds exactly on a blob that a size field can hold, and writes its length,
its bytes and its padding. -/
theorem blob_eq_ok {d e : Bytes} :
    blob d = .ok e ↔
      d.length ≤ maxSize ∧
        e = Bytes.ofWord32 d.length.toUInt32 ++ d ++ Bytes.zeros (Bytes.padding d.length) := by
  unfold blob
  cases hc : checkSize d.length "blob" with
  | error err =>
    have hm : ¬ d.length ≤ maxSize := fun h => by
      rw [(checkSize_eq_ok (u := ())).mpr h] at hc
      cases hc
    simp [bind, Except.bind, hm]
  | ok u =>
    have hm := checkSize_eq_ok.mp hc
    simp [hm, bind, Except.bind, pure, Except.pure, eq_comm]

/-- The tag letters of argument slots exist exactly when no slot is empty. -/
theorem tagLetters_eq_ok {i : Nat} {args : List (Option Argument)} {cs : List Char} :
    tagLetters i args = .ok cs ↔
      ∃ as : List Argument, args = as.map some ∧ cs = as.map Argument.tag := by
  induction args generalizing i cs with
  | nil =>
    simp only [tagLetters, Except.ok.injEq]
    constructor
    · rintro rfl
      exact ⟨[], rfl, rfl⟩
    · rintro ⟨as, has, rfl⟩
      cases as with
      | nil => rfl
      | cons => cases has
  | cons a args ih =>
    cases a with
    | none =>
      simp only [tagLetters, reduceCtorEq, false_iff, not_exists, not_and]
      intro as has
      cases as <;> simp at has
    | some a =>
      cases h : tagLetters (i + 1) args with
      | error err =>
        simp only [tagLetters, h, Except.map, reduceCtorEq, false_iff, not_exists, not_and]
        intro as has _
        cases as with
        | nil => cases has
        | cons b bs =>
          simp only [List.map_cons, List.cons.injEq] at has
          have := (ih (i := i + 1)).mpr ⟨bs, has.2, rfl⟩
          rw [h] at this
          cases this
      | ok cs' =>
        obtain ⟨bs, rfl, rfl⟩ := ih.mp h
        simp only [tagLetters, h, Except.map, Except.ok.injEq]
        constructor
        · rintro rfl
          exact ⟨a :: bs, rfl, rfl⟩
        · rintro ⟨as, has, rfl⟩
          cases as with
          | nil => cases has
          | cons b bs' =>
            simp only [List.map_cons, List.cons.injEq, Option.some.injEq] at has
            obtain ⟨rfl, hbs⟩ := has
            rw [List.map_inj_right (fun _ _ h => Option.some.inj h) |>.mp hbs.symm]
            rfl

theorem typeTags_eq_ok {args : List (Option Argument)} {t : String} :
    typeTags args = .ok t ↔
      ∃ as : List Argument, args = as.map some ∧
        t = String.ofList (',' :: as.map Argument.tag) := by
  unfold typeTags
  cases h : tagLetters 0 args with
  | error err =>
    simp only [Except.map, reduceCtorEq, false_iff, not_exists, not_and]
    intro as has _
    have := (tagLetters_eq_ok (i := 0)).mpr ⟨as, has, rfl⟩
    rw [h] at this
    cases this
  | ok cs =>
    obtain ⟨as, rfl, rfl⟩ := tagLetters_eq_ok.mp h
    simp only [Except.map, Except.ok.injEq]
    constructor
    · rintro rfl
      exact ⟨as, rfl, rfl⟩
    · rintro ⟨bs, hbs, rfl⟩
      rw [List.map_inj_right (fun _ _ h => Option.some.inj h) |>.mp hbs]

theorem payloads_cons_eq_ok {i : Nat} {a : Argument} {rest : List (Option Argument)} {out : Bytes} :
    payloads i (some a :: rest) = .ok out ↔
      ∃ bs tail, payload a = .ok bs ∧ payloads (i + 1) rest = .ok tail ∧
        out = bs ++ tail := by
  simp only [payloads]
  cases ha : payload a with
  | error e => simp
  | ok bs =>
    cases hr : payloads (i + 1) rest with
    | error e => simp [Except.map]
    | ok tail => simp [Except.map, eq_comm]

/-- A message is written as its address, its type tag string and its payloads; it can be written
exactly when no argument slot is empty and each of these can. -/
theorem message_eq_ok {m : Message} {out : Bytes} :
    message m = .ok out ↔
      ∃ (as : List Argument) (address tags body : Bytes), m.args = as.map some ∧
        paddedString m.address = .ok address ∧
        paddedString (0x2C :: as.map Argument.tagByte) = .ok tags ∧
        payloads 0 m.args = .ok body ∧ out = address ++ tags ++ body := by
  unfold message
  simp only [Except.bind_eq_ok, typeTags_eq_ok, pure, Except.pure, Except.ok.injEq]
  constructor
  · rintro ⟨t, ⟨as, has, rfl⟩, address, hA, tags, hT, body, hB, rfl⟩
    rw [Utf8.ofString_tags] at hT
    exact ⟨as, address, tags, body, has, hA, hT, hB, rfl⟩
  · rintro ⟨as, address, tags, body, has, hA, hT, hB, rfl⟩
    exact ⟨_, ⟨as, has, rfl⟩, address, hA, tags, by rwa [Utf8.ofString_tags], body, hB, rfl⟩

/-- A bundle is written as the marker, its time tag and its elements, when its level is within
the limit and its elements can be written. -/
theorem packet_bundle_eq_ok {limit depth : Nat} {tt : Timetag} {els : List Packet} {out : Bytes} :
    packet limit depth (.bundle tt els) = .ok out ↔
      depth + 1 ≤ limit ∧ ∃ body, elements limit (depth + 1) 0 els = .ok body ∧
        out = bundleMarker ++ Bytes.ofWord64 tt.bits ++ body := by
  rw [packet]
  split <;> rename_i hd
  · simp only [reduceCtorEq, false_iff, not_and]
    omega
  · cases h : elements limit (depth + 1) 0 els with
    | error e => simp [Except.map]
    | ok body =>
      simp only [Except.map, Except.ok.injEq]
      constructor
      · rintro rfl
        exact ⟨by omega, body, rfl, rfl⟩
      · rintro ⟨-, _, ⟨⟩, rfl⟩
        rfl

/-- An element is written as its size and its bytes, when it is a packet whose form a size field
can hold. -/
theorem elements_cons_eq_ok {limit depth i : Nat} {p : Packet} {rest : List Packet} {out : Bytes} :
    elements limit depth i (p :: rest) = .ok out ↔
      p ≠ .absent ∧ ∃ bs tail, packet limit depth p = .ok bs ∧ bs.length ≤ maxSize ∧
        elements limit depth (i + 1) rest = .ok tail ∧
        out = Bytes.ofWord32 bs.length.toUInt32 ++ bs ++ tail := by
  by_cases hp : p = .absent
  · subst hp
    simp [elements]
  rw [elements.eq_3 _ _ _ _ _ hp]
  cases hq : packet limit depth p with
  | error e => simp [hp]
  | ok bs =>
    cases hc : checkSize bs.length "element" with
    | error e =>
      have hm : ¬ bs.length ≤ maxSize := fun h => by
        rw [(checkSize_eq_ok (u := ())).mpr h] at hc
        cases hc
      simp [hc, hm]
    | ok u =>
      have hm := checkSize_eq_ok.mp hc
      cases hr : elements limit depth (i + 1) rest with
      | error e => simp [hc, Except.map]
      | ok tail => simp [hc, Except.map, hp, hm, eq_comm]

theorem elements_cons_ne_ok_of_error {limit depth i : Nat} {p : Packet} {rest : List Packet}
    {bs : Bytes} {e : Error} (he : packet limit depth p = .error e) :
    elements limit depth i (p :: rest) ≠ .ok bs := by
  intro h
  obtain ⟨-, pb, -, hq, -⟩ := elements_cons_eq_ok.mp h
  rw [he] at hq
  cases hq

theorem elements_cons_ne_ok_of_checkSize {limit depth i : Nat} {p : Packet} {rest : List Packet}
    {bs pb : Bytes} {e : Error} (hq : packet limit depth p = .ok pb)
    (hc : checkSize pb.length "element" = .error e) :
    elements limit depth i (p :: rest) ≠ .ok bs := by
  intro h
  obtain ⟨-, pb', -, hq', hm, -⟩ := elements_cons_eq_ok.mp h
  rw [hq, Except.ok.injEq] at hq'
  subst hq'
  rw [(checkSize_eq_ok (u := ())).mpr hm] at hc
  cases hc

end Wire.Encode

/-! ## Reading messages -/

namespace Wire.Decode

theorem argument_int32 (stop : Nat) (bs : Bytes) :
    argument stop 0x69 bs = (word32 stop "int32" bs).map fun (w, r) => (.int32 w.toInt32, r) := rfl

theorem argument_float32 (stop : Nat) (bs : Bytes) :
    argument stop 0x66 bs = (word32 stop "float32" bs).map fun (w, r) => (.float32 w, r) := rfl

theorem argument_string (stop : Nat) (bs : Bytes) :
    argument stop 0x73 bs = (text stop "string" bs).map fun (s, r) => (.string s, r) := rfl

theorem argument_blob (stop : Nat) (bs : Bytes) :
    argument stop 0x62 bs = (blob stop bs).map fun (d, r) => (.blob (.ofList d), r) := rfl

theorem arguments_cons_eq_ok {stop i : Nat} {t : UInt8} {ts : List UInt8} {bs r : Bytes}
    {args : List (Option Argument)} :
    arguments stop i (t :: ts) bs = .ok (args, r) ↔
      ∃ a rest as, argument stop t bs = .ok (a, rest) ∧
        arguments stop (i + 1) ts rest = .ok (as, r) ∧ args = some a :: as := by
  simp only [arguments]
  constructor
  · intro h
    split at h
    · cases h
    · rename_i a rest ha
      obtain ⟨⟨as, r'⟩, hr, he⟩ := Except.map_eq_ok.mp h
      simp only [Prod.mk.injEq] at he
      obtain ⟨rfl, rfl⟩ := he
      exact ⟨a, rest, as, ha, hr, rfl⟩
  · rintro ⟨a, rest, as, ha, hr, rfl⟩
    simp [ha, hr, Except.map]

theorem typedArguments_eq_ok {stop : Nat} {bs r : Bytes} {args : List (Option Argument)} :
    typedArguments stop bs = .ok (args, r) ↔
      ∃ letters rest, paddedString stop "type tag string" bs = .ok (0x2C :: letters, rest) ∧
        arguments stop 0 letters rest = .ok (args, r) := by
  unfold typedArguments
  cases h : paddedString stop "type tag string" bs with
  | error e => simp
  | ok v =>
    obtain ⟨tags, rest⟩ := v
    simp only [Except.ok.injEq, Prod.mk.injEq]
    split
    · rename_i letters
      constructor
      · intro h
        exact ⟨letters, rest, ⟨rfl, rfl⟩, h⟩
      · rintro ⟨_, _, ⟨⟨⟩, rfl⟩, h⟩
        exact h
    · rename_i hne
      simp only [reduceCtorEq, false_iff, not_exists, not_and]
      rintro letters _ ⟨rfl, rfl⟩
      exact absurd rfl (hne letters)

/-- A message is read as its address, its type tag string and the payloads it announces, which
must end where the message ends; its argument slice is nil exactly when there are none. -/
theorem message_eq_ok {stop : Nat} {bs : Bytes} {m : Message} :
    message stop bs = .ok m ↔
      ∃ rest, text stop "address" bs = .ok (m.address, rest) ∧
        typedArguments stop rest = .ok (m.args, []) ∧ m.arguments = .ofItems m.args := by
  unfold message
  simp only [Except.bind_eq_ok]
  constructor
  · rintro ⟨⟨address, rest⟩, hA, ⟨args, rest'⟩, hT, h⟩
    dsimp only at hT h
    split at h
    · rename_i hr
      simp only [pure, Except.pure, Except.ok.injEq] at h
      subst h
      rw [List.isEmpty_iff.mp hr] at hT
      exact ⟨rest, hA, by simpa using hT, by simp⟩
    · cases h
  · rintro ⟨rest, hA, hT, hm⟩
    refine ⟨(m.address, rest), hA, (m.args, []), hT, ?_⟩
    simp only [List.isEmpty_nil, if_true, pure, Except.pure, ← hm]

/-! ## Reading packets -/

/-- The element reader on a size word and what follows it. -/
theorem elements_frame (limit depth stop i : Nat) (w : UInt32) (rest : Bytes) :
    elements limit depth stop i (Bytes.ofWord32 w ++ rest) =
      if rest.length < w.toNat then
        .error ((decodeError (stop - rest.length) .unexpectedEnd
          ("element size " ++ toString w.toNat ++ " exceeds remaining " ++
            toString rest.length)).inElement i)
      else
        match packet limit (depth + 1) (stop - rest.length + w.toNat) (rest.take w.toNat) with
        | .error e => .error (e.inElement i)
        | .ok p => (elements limit depth stop (i + 1) (rest.drop w.toNat)).map (p :: ·) := by
  have h := elements.eq_2 limit depth stop i (w >>> 24).toUInt8 (w >>> 16).toUInt8
    (w >>> 8).toUInt8 w.toUInt8 rest
  rw [Bytes.word32_ofWord32] at h
  -- the match on the element's outcome is the one of the equation, under another name
  exact h

/-- The bundle reader on the marker, a time tag word and the element area. -/
theorem bundle_marker (limit depth stop : Nat) (w : UInt64) (body : Bytes) :
    bundle limit depth stop (bundleMarker ++ Bytes.ofWord64 w ++ body) =
      if depth > limit then
        .error (decodeError (stop - (16 + body.length)) .depthExceeded ("limit " ++ toString limit))
      else (elements limit depth stop 0 body).map (.bundle ⟨w⟩) := by
  rw [bundle.eq_1]
  split
  · simp only [List.length_append, Bytes.ofWord64_length]
    congr 3
  · have hl : ¬ (bundleMarker ++ Bytes.ofWord64 w ++ body).length < 8 := by simp [bundleMarker]
    have hm : (List.take 8 (bundleMarker ++ Bytes.ofWord64 w ++ body) != bundleMarker) = false := by
      simp [bundleMarker]
    rw [if_neg hl, hm, if_neg Bool.false_ne_true]
    split
    · rename_i a b c d e f g k rest h
      rw [List.append_assoc, show List.drop 8 (bundleMarker ++ (Bytes.ofWord64 w ++ body)) =
        Bytes.ofWord64 w ++ body from rfl] at h
      simp only [Bytes.ofWord64, Bytes.ofWord32, List.cons_append, List.nil_append,
        List.cons.injEq] at h
      obtain ⟨rfl, rfl, rfl, rfl, rfl, rfl, rfl, rfl, rfl⟩ := h
      simp only [Bytes.word32_ofWord32, Bytes.word64_ofWord64]
    · rename_i hne
      exact (hne _ _ _ _ _ _ _ _ body rfl).elim

/-- A region that starts with the bundle marker and has a time tag's bytes after it is the marker,
the time tag word and the element area. -/
theorem eq_marker_append {bs rest : Bytes} {a b c d e f g k : UInt8}
    (hmk : ¬(bs.take 8 != bundleMarker) = true)
    (hdrop : bs.drop 8 = a :: b :: c :: d :: e :: f :: g :: k :: rest) :
    bs = bundleMarker ++
      Bytes.ofWord64 (Bytes.word64 (Bytes.word32 a b c d) (Bytes.word32 e f g k)) ++ rest := by
  have hmarker : bs.take 8 = bundleMarker := by simpa using hmk
  rw [← List.take_append_drop 8 bs, hmarker, hdrop, Bytes.ofWord64_word64,
    Bytes.ofWord32_word32, Bytes.ofWord32_word32]
  rfl

end Wire.Decode

end SoundControl
