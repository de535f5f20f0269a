import SoundControl.Timetag
import Mathlib.Data.Int.ModEq

/-! # Between times and time tags, both ways

A Unix time comes back from its time tag with the same nanoseconds and its seconds modulo 2^32
(`toUnix_ofUnix`); a time tag comes back from its Unix time at most three units below or two
above where it was, modulo 2^64 (`ofUnix_toUnix_drift`). -/

namespace SoundControl

/-! ## Words and wrapping -/

/-- A signed 64-bit wrap keeps a value modulo 2^32. -/
theorem wrapInt64_modEq (x : Int) : wrapInt64 x ≡ x [ZMOD 2 ^ 32] := by
  unfold Int.ModEq
  simp only [wrapInt64, Nat.pow_eq]
  split <;> omega

/-- A value in the signed 64-bit range is its own wrap. -/
theorem wrapInt64_eq_self (x : Int) (h1 : -2 ^ 63 ≤ x) (h2 : x < 2 ^ 63) : wrapInt64 x = x := by
  simp only [wrapInt64, Nat.pow_eq]
  split <;> omega

namespace Timetag

/-- The two halves of a word built from two 32-bit halves. -/
theorem seconds_fraction_ofWord (s f : Nat) (hs : s < 2 ^ 32) (hf : f < 2 ^ 32) :
    (seconds ⟨(s * Nat.pow 2 32 + f).toUInt64⟩).toNat = s ∧
      (fraction ⟨(s * Nat.pow 2 32 + f).toUInt64⟩).toNat = f := by
  simp [seconds, fraction, Nat.pow_eq]
  refine ⟨?_, hf⟩
  rw [Nat.mod_eq_of_lt (by omega), Nat.shiftRight_eq_div_pow]
  omega

end Timetag

/-! ## Nanoseconds -/

/-- The fraction of less than a second fits in 32 bits. -/
theorem nanoFraction_lt (n : Nat) (h : n < 1000000000) :
    n * Nat.pow 2 32 / 1000000000 < 2 ^ 32 := by
  simp only [Nat.pow_eq]
  omega

/-- Rounding the fraction of `n` nanoseconds back to nanoseconds gives `n`. -/
theorem nanoFraction_round (n : Nat) :
    (n * Nat.pow 2 32 / 1000000000 * 1000000000 + Nat.pow 2 31) / Nat.pow 2 32 = n := by
  simp only [Nat.pow_eq]
  have h1 := Nat.div_add_mod (n * 2 ^ 32) 1000000000
  have h2 := Nat.mod_lt (n * 2 ^ 32) (by decide : 1000000000 > 0)
  omega

/-! ## The round trip -/

/-- The Unix time of the time tag of a time: the seconds of the tag shifted back to 1970, and
the same nanoseconds. -/
theorem toUnix_ofUnix_eq (u : UnixTime) (h : u.nanos < 1000000000) :
    (Timetag.ofUnix u).toUnix =
      ⟨((wrapInt64 (u.seconds + epochOffset) % (Nat.pow 2 32 : Int)).toNat : Int) - epochOffset,
        u.nanos⟩ := by
  have hs : (wrapInt64 (u.seconds + epochOffset) % (Nat.pow 2 32 : Int)).toNat < 2 ^ 32 := by
    simp only [Nat.pow_eq]
    omega
  obtain ⟨h1, h2⟩ := Timetag.seconds_fraction_ofWord _ _ hs (nanoFraction_lt u.nanos h)
  simp only [Timetag.toUnix, Timetag.ofUnix, h1, h2, nanoFraction_round, UnixTime.normalize]
  simp only [Nat.pow_eq]
  have he : (epochOffset : Int) = 2208988800 := rfl
  have hn : (u.nanos : Int) / 1000000000 = 0 := by omega
  have hm : ((u.nanos : Int) % 1000000000).toNat = u.nanos := by omega
  rw [hn, hm, Int.add_zero, wrapInt64_eq_self _ (by omega) (by omega)]

/-- A time taken to a time tag and back keeps its nanoseconds, and its seconds modulo 2^32,
landing in the 2^32 seconds from 1900-01-01 on; a time in that range comes back unchanged. -/
theorem toUnix_ofUnix (u : UnixTime) (h : u.nanos < 1000000000) :
    (Timetag.ofUnix u).toUnix.nanos = u.nanos ∧
      (Timetag.ofUnix u).toUnix.seconds ≡ u.seconds [ZMOD 2 ^ 32] ∧
      -(epochOffset : Int) ≤ (Timetag.ofUnix u).toUnix.seconds ∧
      (Timetag.ofUnix u).toUnix.seconds < 2 ^ 32 - epochOffset ∧
      (-(epochOffset : Int) ≤ u.seconds → u.seconds < 2 ^ 32 - epochOffset →
        (Timetag.ofUnix u).toUnix = u) := by
  rw [toUnix_ofUnix_eq u h]
  simp only [Nat.pow_eq]
  have he : (epochOffset : Int) = 2208988800 := rfl
  have hw := wrapInt64_modEq (u.seconds + epochOffset)
  unfold Int.ModEq at hw ⊢
  refine ⟨trivial, by omega, by omega, by omega, fun h1 h2 => ?_⟩
  rw [wrapInt64_eq_self _ (by omega) (by omega)]
  obtain ⟨s, n⟩ := u
  dsimp only at h1 h2
  simp only [UnixTime.mk.injEq, and_true]
  omega

/-- The round trip at 2023-11-14T22:13:20.123456789Z gives that time back. -/
theorem toUnix_ofUnix_sample :
    (⟨1700000000, 123456789⟩ : UnixTime).nanos < 1000000000 ∧
      (Timetag.ofUnix ⟨1700000000, 123456789⟩).toUnix = ⟨1700000000, 123456789⟩ :=
  ⟨by decide, (toUnix_ofUnix ⟨1700000000, 123456789⟩ (by decide)).2.2.2.2 (by decide) (by decide)⟩

/-! ## From a time tag to a time and back -/

/-- A fraction of a second rounds to at most a whole second of nanoseconds. -/
theorem nanoRound_le {f : Nat} (hf : f < 2 ^ 32) :
    (f * 1000000000 + 2 ^ 31) / 2 ^ 32 ≤ 1000000000 := by
  omega

/-- A fraction rounded to nanoseconds and truncated back lands from three units below to two
above where it started. -/
theorem nanoRound_fraction_near (f : Nat) :
    f ≤ (f * 1000000000 + 2 ^ 31) / 2 ^ 32 * 2 ^ 32 / 1000000000 + 3 ∧
      (f * 1000000000 + 2 ^ 31) / 2 ^ 32 * 2 ^ 32 / 1000000000 ≤ f + 2 := by
  omega

/-- Only the last two fractions of a second round up to a whole second. -/
theorem nanoRound_eq_second {f : Nat} (hf : f < 2 ^ 32)
    (h : (f * 1000000000 + 2 ^ 31) / 2 ^ 32 = 1000000000) : 2 ^ 32 - 2 ≤ f := by
  omega

/-- Two words at most three apart downwards or two upwards differ, modulo 2^64, by one of six
amounts. -/
theorem wrappedDiff_mem {x y : Nat} (hx : x ≤ 2 ^ 64) (hlo : x ≤ y + 3) (hhi : y ≤ x + 2) :
    (2 ^ 64 - x + y) % 2 ^ 64 ∈ [2 ^ 64 - 3, 2 ^ 64 - 2, 2 ^ 64 - 1, 0, 1, 2] := by
  simp only [List.mem_cons, List.not_mem_nil, or_false]
  rcases Nat.lt_or_ge y x with hdown | hup
  · rw [Nat.mod_eq_of_lt (by omega)]
    omega
  · rw [show 2 ^ 64 - x + y = (y - x) + 2 ^ 64 by omega, Nat.add_mod_right,
      Nat.mod_eq_of_lt (by omega)]
    omega

namespace Timetag

/-- A time tag is its seconds above its fraction. -/
theorem toNat_bits (t : Timetag) :
    t.bits.toNat = t.seconds.toNat * 2 ^ 32 + t.fraction.toNat := by
  have hlt := t.bits.toNat_lt
  simp [seconds, fraction, Nat.shiftRight_eq_div_pow]
  omega

/-- The Unix time of a time tag: its seconds shifted back to 1970, plus the second that the
rounded nanoseconds may reach, and those nanoseconds below a second. -/
theorem toUnix_eq (t : Timetag) :
    t.toUnix =
      ⟨(t.seconds.toNat : Int) - epochOffset +
          ((t.fraction.toNat * 1000000000 + 2 ^ 31) / 2 ^ 32 / 1000000000 : Nat),
        (t.fraction.toNat * 1000000000 + 2 ^ 31) / 2 ^ 32 % 1000000000⟩ := by
  have hs := t.seconds.toNat_lt
  have hn := nanoRound_le t.fraction.toNat_lt
  have he : (epochOffset : Int) = 2208988800 := rfl
  simp only [toUnix, UnixTime.normalize, Nat.pow_eq, UnixTime.mk.injEq]
  constructor
  · rw [wrapInt64_eq_self _ (by omega) (by omega)]
    omega
  · omega

/-- The time tag of the Unix time of a time tag, as a number: the seconds with the carry, modulo
2^32, above the nanoseconds taken back to a fraction. -/
theorem ofUnix_toUnix_toNat (t : Timetag) :
    (ofUnix t.toUnix).bits.toNat =
      (t.seconds.toNat + (t.fraction.toNat * 1000000000 + 2 ^ 31) / 2 ^ 32 / 1000000000) %
          2 ^ 32 * 2 ^ 32 +
        (t.fraction.toNat * 1000000000 + 2 ^ 31) / 2 ^ 32 % 1000000000 * 2 ^ 32 / 1000000000 := by
  have hs := t.seconds.toNat_lt
  have hn := nanoRound_le t.fraction.toNat_lt
  have he : (epochOffset : Int) = 2208988800 := rfl
  rw [toUnix_eq]
  simp only [ofUnix, Nat.pow_eq]
  rw [wrapInt64_eq_self _ (by omega) (by omega)]
  have hsec : (((t.seconds.toNat : Int) - epochOffset +
      ((t.fraction.toNat * 1000000000 + 2 ^ 31) / 2 ^ 32 / 1000000000 : Nat) + epochOffset) %
        ((2 ^ 32 : Nat) : Int)).toNat =
      (t.seconds.toNat + (t.fraction.toNat * 1000000000 + 2 ^ 31) / 2 ^ 32 / 1000000000) %
        2 ^ 32 := by
    omega
  have hfrac := nanoFraction_lt _
    (Nat.mod_lt ((t.fraction.toNat * 1000000000 + 2 ^ 31) / 2 ^ 32) (by decide : 1000000000 > 0))
  simp only [Nat.pow_eq] at hfrac
  rw [hsec, Nat.toUInt64_eq, UInt64.toNat_ofNat']
  omega

end Timetag

/-- A time tag taken to a Unix time and back moves, as a word modulo 2^64, by at most three
units of 2^-32 s down or two up: also where the fraction rounds up to a whole second and carries
into the seconds, and where that carry wraps the last second of the era to the first. -/
theorem ofUnix_toUnix_drift (t : Timetag) :
    ((Timetag.ofUnix t.toUnix).bits - t.bits).toNat ∈
      [2 ^ 64 - 3, 2 ^ 64 - 2, 2 ^ 64 - 1, 0, 1, 2] := by
  have hs := t.seconds.toNat_lt
  have hf := t.fraction.toNat_lt
  have hn := nanoRound_le hf
  obtain ⟨h1, h2⟩ := nanoRound_fraction_near t.fraction.toNat
  rw [UInt64.toNat_sub, Timetag.ofUnix_toUnix_toNat, Timetag.toNat_bits]
  obtain ⟨n, hround⟩ : ∃ n, (t.fraction.toNat * 1000000000 + 2 ^ 31) / 2 ^ 32 = n := ⟨_, rfl⟩
  rw [hround] at hn h1 h2 ⊢
  rcases Nat.lt_or_eq_of_le hn with hlt | rfl
  · -- no carry: the seconds stay, and the fraction moves by the rounding
    rw [Nat.div_eq_of_lt hlt, Nat.mod_eq_of_lt hlt, Nat.add_zero, Nat.mod_eq_of_lt hs]
    exact wrappedDiff_mem (by omega) (by omega) (by omega)
  · -- a whole second: the next second with no fraction, from one of the last two fractions
    have h := nanoRound_eq_second hf hround
    simp only [Nat.div_self (by decide : 0 < 1000000000), Nat.mod_self, Nat.zero_mul,
      Nat.zero_div, Nat.add_zero]
    rcases Nat.lt_or_ge (t.seconds.toNat + 1) (2 ^ 32) with hin | hwrap
    · rw [Nat.mod_eq_of_lt hin]
      exact wrappedDiff_mem (by omega) (by omega) (by omega)
    · -- the last second of the era wraps to the first, two units or one ahead
      rw [show t.seconds.toNat + 1 = 2 ^ 32 by omega, Nat.mod_self, Nat.zero_mul, Nat.add_zero,
        Nat.mod_eq_of_lt (by omega)]
      simp only [List.mem_cons, List.not_mem_nil, or_false]
      omega

/-- The last unit of the era comes back as the first instant: one unit ahead, modulo 2^64. -/
example : ((Timetag.ofUnix (Timetag.toUnix ⟨0xFFFFFFFFFFFFFFFF⟩)).bits - 0xFFFFFFFFFFFFFFFF).toNat
    = 1 := by
  decide

end SoundControl
