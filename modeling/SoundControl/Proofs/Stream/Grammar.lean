import SoundControl.Proofs.Stream.Framing
import Mathlib

/-! # The frame grammar of a stream

Reading one frame takes one of five shapes (`FrameRead`, `readFrame_eq_iff`), and reading frames
until one fails is a run of decoded frames ended by the first that does not read
(`StreamRead`, `readAll_eq_iff`). -/

namespace SoundControl

theorem Except.mapError_eq_ok {ε ε' α : Type} {x : Except ε α} {f : ε → ε'} {a : α} :
    x.mapError f = .ok a ↔ x = .ok a := by
  cases x <;> simp [Except.mapError]

namespace Codec

/-- How reading one frame from the front of a stream ends, and the bytes it leaves. -/
inductive FrameRead (c : Codec) : Bytes → Except StreamEnd Packet → Bytes → Prop where
  /-- No byte is left: the stream ends cleanly. -/
  | finished : FrameRead c [] (.error .finished) []
  /-- One to three bytes are left: the size prefix is cut, and they are consumed. -/
  | shortPrefix (s : Bytes) (h0 : 0 < s.length) (h4 : s.length < 4) :
      FrameRead c s (.error (.failed (streamError .read .unexpectedEnd "size prefix"))) []
  /-- A size beyond the size field or the codec's limit: only the prefix is read. -/
  | tooLarge (w : UInt32) (t : Bytes)
      (h : Wire.Encode.maxSize < w.toNat ∨ c.maxPacketSize < w.toNat) :
      FrameRead c (Bytes.ofWord32 w ++ t)
        (.error (.failed (streamError .read .tooLarge ("packet size " ++ toString w.toNat)))) t
  /-- Fewer bytes than the size are left: they are all consumed. -/
  | shortBody (w : UInt32) (t : Bytes) (hs : w.toNat ≤ Wire.Encode.maxSize)
      (hm : w.toNat ≤ c.maxPacketSize) (ht : t.length < w.toNat) :
      FrameRead c (Bytes.ofWord32 w ++ t)
        (.error (.failed (streamError .read .unexpectedEnd "packet body"))) []
  /-- The body is there: it is decoded on its own, and the bytes after it are left. -/
  | body (w : UInt32) (t : Bytes) (hs : w.toNat ≤ Wire.Encode.maxSize)
      (hm : w.toNat ≤ c.maxPacketSize) (ht : w.toNat ≤ t.length) :
      FrameRead c (Bytes.ofWord32 w ++ t) ((c.decode (t.take w.toNat)).mapError .failed)
        (t.drop w.toNat)

/-! ## One frame -/

theorem readFrame_short {c : Codec} {s : Bytes} (h0 : 0 < s.length) (h4 : s.length < 4) :
    c.readFrame s = (.error (.failed (streamError .read .unexpectedEnd "size prefix")), []) := by
  match s, h0, h4 with
  | [_], _, _ => rfl
  | [_, _], _, _ => rfl
  | [_, _, _], _, _ => rfl

/-- Reading a frame after its size word: the two bounds first, then the body. -/
theorem readFrame_word (c : Codec) (w : UInt32) (t : Bytes) :
    c.readFrame (Bytes.ofWord32 w ++ t) =
      if Wire.Encode.maxSize < w.toNat ∨ c.maxPacketSize < w.toNat then
        (.error (.failed (streamError .read .tooLarge ("packet size " ++ toString w.toNat))), t)
      else if t.length < w.toNat then
        (.error (.failed (streamError .read .unexpectedEnd "packet body")), [])
      else ((c.decode (t.take w.toNat)).mapError .failed, t.drop w.toNat) := by
  simp only [Bytes.ofWord32, List.cons_append, List.nil_append, readFrame, Bytes.word32_ofWord32,
    gt_iff_lt]
  split_ifs
  · rfl
  · rfl
  · cases c.decode (t.take w.toNat) <;> rfl

theorem FrameRead.execution {c : Codec} {s rest : Bytes} {r : Except StreamEnd Packet}
    (h : FrameRead c s r rest) : c.readFrame s = (r, rest) := by
  cases h with
  | finished => rfl
  | shortPrefix s h0 h4 => exact readFrame_short h0 h4
  | tooLarge w t h => rw [readFrame_word, if_pos h]
  | shortBody w t hs hm ht => rw [readFrame_word, if_neg (by omega), if_pos ht]
  | body w t hs hm ht => rw [readFrame_word, if_neg (by omega), if_neg (by omega)]

/-- Whatever the stream, reading a frame follows one rule of the grammar. -/
theorem readFrame_derivation (c : Codec) (s : Bytes) :
    FrameRead c s (c.readFrame s).1 (c.readFrame s).2 := by
  match s with
  | [] => exact .finished
  | [a] => exact .shortPrefix [a] (by simp) (by simp)
  | [a, b] => exact .shortPrefix [a, b] (by simp) (by simp)
  | [a, b, d] => exact .shortPrefix [a, b, d] (by simp) (by simp)
  | a :: b :: d :: e :: t =>
    -- four bytes or more are a size word and what follows it
    have hs : a :: b :: d :: e :: t = Bytes.ofWord32 (Bytes.word32 a b d e) ++ t := by
      rw [Bytes.ofWord32_word32]
      rfl
    rw [hs, readFrame_word]
    split_ifs with hl hb
    · exact .tooLarge _ t hl
    · exact .shortBody _ t (by omega) (by omega) hb
    · exact .body _ t (by omega) (by omega) (by omega)

/-- Reading a frame gives exactly what the grammar gives. -/
theorem readFrame_eq_iff {c : Codec} {s rest : Bytes} {r : Except StreamEnd Packet} :
    c.readFrame s = (r, rest) ↔ FrameRead c s r rest := by
  refine ⟨fun h => ?_, FrameRead.execution⟩
  simpa only [h] using readFrame_derivation c s

/-- A frame body within both bounds is decoded on its own, and reading stops right after it. -/
theorem readFrame_framed (c : Codec) {b : Bytes} (rest : Bytes)
    (hs : b.length ≤ Wire.Encode.maxSize) (hm : b.length ≤ c.maxPacketSize) :
    c.readFrame (Bytes.ofWord32 b.length.toUInt32 ++ b ++ rest) =
      ((c.decode b).mapError .failed, rest) := by
  have hw : b.length.toUInt32.toNat = b.length := Wire.Encode.toNat_toUInt32_of_le hs
  rw [List.append_assoc, readFrame_word, hw, if_neg (by omega), if_neg (by simp), List.take_left,
    List.drop_left]

/-- A frame is read as a packet exactly when it is a body within both bounds, after its size, that
decodes to the packet. -/
theorem readFrame_eq_ok {c : Codec} {s rest : Bytes} {q : Packet} :
    c.readFrame s = (.ok q, rest) ↔
      ∃ b, b.length ≤ Wire.Encode.maxSize ∧ b.length ≤ c.maxPacketSize ∧ c.decode b = .ok q ∧
        s = Bytes.ofWord32 b.length.toUInt32 ++ b ++ rest := by
  constructor
  · intro h
    -- only the rule that decodes a body reads a packet
    generalize hr : (Except.ok q : Except StreamEnd Packet) = r at h
    cases readFrame_eq_iff.mp h with
    | finished => cases hr
    | shortPrefix s h0 h4 => cases hr
    | tooLarge w t h => cases hr
    | shortBody w t hs hm ht => cases hr
    | body w t hs hm ht =>
      have hlen : (t.take w.toNat).length = w.toNat := List.length_take_of_le ht
      refine ⟨t.take w.toNat, by omega, by omega, Except.mapError_eq_ok.mp hr.symm, ?_⟩
      rw [hlen, Nat.toUInt32_eq, UInt32.ofNat_toNat, List.append_assoc, List.take_append_drop]
  · rintro ⟨b, hs, hm, hd, rfl⟩
    rw [readFrame_framed c rest hs hm, hd]
    rfl

/-! ## Reading until a frame fails -/

/-- Reading frames until one fails: the packets of a run of frames, then how the first frame
that is no packet ends, and the bytes it leaves. -/
inductive StreamRead (c : Codec) : Bytes → List Packet → StreamEnd → Bytes → Prop where
  /-- The next frame is no packet: reading ends as that frame does. -/
  | stop {s : Bytes} {fin : StreamEnd} {left : Bytes} :
      FrameRead c s (.error fin) left → StreamRead c s [] fin left
  /-- A body within both bounds, after its size, decodes to the next packet. -/
  | next {b rest : Bytes} {q : Packet} {ps : List Packet} {fin : StreamEnd} {left : Bytes}
      (hs : b.length ≤ Wire.Encode.maxSize) (hm : b.length ≤ c.maxPacketSize)
      (hd : c.decode b = .ok q) :
      StreamRead c rest ps fin left →
      StreamRead c (Bytes.ofWord32 b.length.toUInt32 ++ b ++ rest) (q :: ps) fin left

theorem readAll_of_readFrame_error {c : Codec} {s rest : Bytes} {fin : StreamEnd}
    (h : c.readFrame s = (.error fin, rest)) : c.readAll s = ([], fin, rest) := by
  rw [readAll]
  split
  · rename_i h'
    rw [h] at h'
    cases h'
  · rename_i h'
    rw [h] at h'
    cases h'
    rfl

theorem StreamRead.execution {c : Codec} {s left : Bytes} {ps : List Packet} {fin : StreamEnd}
    (h : StreamRead c s ps fin left) : c.readAll s = (ps, fin, left) := by
  induction h with
  | stop hf => exact readAll_of_readFrame_error hf.execution
  | @next b rest q ps fin left hs hm hd _ ih =>
    have hr := readFrame_framed c rest hs hm
    rw [hd] at hr
    rw [readAll_of_readFrame_ok hr, ih]

/-- Whatever the stream, reading it until a frame fails is a run of the grammar. -/
theorem readAll_derivation (c : Codec) (s : Bytes) :
    StreamRead c s (c.readAll s).1 (c.readAll s).2.1 (c.readAll s).2.2 := by
  -- strong induction on the length: a frame read as a packet leaves a shorter stream
  induction hn : s.length using Nat.strong_induction_on generalizing s with
  | _ n ih =>
    rcases hr : c.readFrame s with ⟨_ | q, rest⟩
    · rename_i fin
      rw [readAll_of_readFrame_error hr]
      exact .stop (readFrame_eq_iff.mp hr)
    · obtain ⟨b, hs, hm, hd, rfl⟩ := readFrame_eq_ok.mp hr
      have hlt : rest.length < n := by
        rw [← hn]
        simp
        omega
      rw [readAll_of_readFrame_ok hr]
      exact .next hs hm hd (ih _ hlt rest rfl)

/-- Reading a stream until a frame fails gives exactly what the run grammar gives. -/
theorem readAll_eq_iff {c : Codec} {s left : Bytes} {ps : List Packet} {fin : StreamEnd} :
    c.readAll s = (ps, fin, left) ↔ StreamRead c s ps fin left := by
  refine ⟨fun h => ?_, StreamRead.execution⟩
  simpa only [h] using readAll_derivation c s

/-- Each packet read takes at least the four bytes of its size. -/
theorem StreamRead.four_mul_length_le {c : Codec} {s left : Bytes} {ps : List Packet}
    {fin : StreamEnd} (h : StreamRead c s ps fin left) : 4 * ps.length ≤ s.length := by
  induction h with
  | stop _ => simp
  | next _ _ _ _ ih =>
    simp only [List.length_cons, List.length_append, Bytes.ofWord32_length]
    omega

end Codec

/-- Reading a stream follows its frame grammar on every stream: one frame is read exactly as the
five rules say, by the bytes left and the size word; reading until a frame fails yields the
packets of the longest run of leading frames that decode, each frame its size then its body, and
ends as the first frame that is no packet ends; and since every packet read takes at least four
bytes, the run is no longer than a quarter of the stream. -/
theorem stream_reads_follow_grammar (c : Codec) :
    (∀ s r rest, c.readFrame s = (r, rest) ↔ Codec.FrameRead c s r rest) ∧
    (∀ s ps fin left, c.readAll s = (ps, fin, left) ↔ Codec.StreamRead c s ps fin left) ∧
    ∀ s, 4 * (c.readAll s).1.length ≤ s.length :=
  ⟨fun _ _ _ => Codec.readFrame_eq_iff, fun _ _ _ _ => Codec.readAll_eq_iff,
    fun s => (Codec.readAll_derivation c s).four_mul_length_le⟩

end SoundControl
