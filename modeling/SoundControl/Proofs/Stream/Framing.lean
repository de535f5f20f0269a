import SoundControl.Proofs.Wire.RoundTrip
import SoundControl.Stream
import Mathlib

/-! # Reading back a stream of frames

Writing packets one frame after another and reading the stream back gives packets equal to them,
in order, and then a clean end with nothing left over (`readAll_frames`). -/

namespace SoundControl

namespace Codec

/-! ## One frame -/

/-- Writing a frame succeeds exactly when the packet encodes within both size limits, and the
frame is then the body's size followed by the body. -/
theorem frame_eq_ok {c : Codec} {p : Packet} {f : Bytes} :
    c.frame p = .ok f ↔
      ∃ e, c.encode p = .ok e ∧ e.length ≤ Wire.Encode.maxSize ∧ e.length ≤ c.maxPacketSize ∧
        f = Bytes.ofWord32 e.length.toUInt32 ++ e := by
  simp only [frame, Except.bind_eq_ok, Wire.Encode.checkSize_eq_ok]
  constructor
  · rintro ⟨e, he, u, hs, hf⟩
    split at hf
    · simp at hf
    · exact ⟨e, he, hs, by omega, by simpa [pure, Except.pure] using hf.symm⟩
  · rintro ⟨e, he, hs, hm, rfl⟩
    refine ⟨e, he, (), hs, ?_⟩
    rw [if_neg (by omega)]
    rfl

/-- A frame that was written is read back as its packet, as the reader builds it, and reading
stops right after it. -/
theorem readFrame_frame {c : Codec} {p : Packet} {e : Bytes} (rest : Bytes)
    (he : c.encode p = .ok e) (hs : e.length ≤ Wire.Encode.maxSize)
    (hm : e.length ≤ c.maxPacketSize) (ha : bundleAddress ∉ p.addresses) :
    c.readFrame (Bytes.ofWord32 e.length.toUInt32 ++ e ++ rest) = (.ok p.asRead, rest) := by
  have hd : c.decode e = .ok p.asRead :=
    (Wire.packet_of_encode c.maxDepth).1 0 p e e.length he ha
  simp only [Bytes.ofWord32, List.cons_append, List.nil_append, readFrame,
    Bytes.word32_ofWord32, Wire.Encode.toNat_toUInt32_of_le hs]
  -- the size passes both bounds and the body is all there
  rw [if_neg (by omega), if_neg (by simp), List.take_left, hd, List.drop_left]

/-! ## Reading until the end -/

theorem readAll_of_readFrame_ok {c : Codec} {s rest : Bytes} {p : Packet}
    (h : c.readFrame s = (.ok p, rest)) :
    c.readAll s = (p :: (c.readAll rest).1, (c.readAll rest).2) := by
  rw [readAll]
  split
  · rename_i h'
    rw [h] at h'
    cases h'
    rfl
  · rename_i h'
    rw [h] at h'
    cases h'

theorem readAll_nil (c : Codec) : c.readAll [] = ([], .finished, []) := by
  rw [readAll]
  rfl

/-- Packets written one frame after another are read back in order, as the reader builds them,
and reading then ends cleanly with no byte left; the stream is each packet's size followed by its
wire form. -/
theorem readAll_flatten_frames (c : Codec) (ps : List Packet) (fs : List Bytes)
    (hw : ps.mapM c.frame = .ok fs) (ha : ∀ p ∈ ps, bundleAddress ∉ p.addresses) :
    (∃ es : List Bytes, ps.mapM c.encode = .ok es ∧
      (∀ e ∈ es, e.length ≤ Wire.Encode.maxSize ∧ e.length ≤ c.maxPacketSize) ∧
      fs = es.map fun e => Bytes.ofWord32 e.length.toUInt32 ++ e) ∧
    c.readAll fs.flatten = (ps.map Packet.asRead, .finished, []) := by
  -- induction on the packets written; each frame is read whole before the next one
  induction ps generalizing fs with
  | nil =>
    simp only [List.mapM_nil, pure, Except.pure, Except.ok.injEq] at hw
    subst hw
    exact ⟨⟨[], rfl, by simp, rfl⟩, readAll_nil c⟩
  | cons p ps ih =>
    simp only [List.mapM_cons, Except.bind_eq_ok, pure, Except.pure, Except.ok.injEq] at hw
    obtain ⟨f, hf, fs', hfs, rfl⟩ := hw
    obtain ⟨e, he, hs, hm, rfl⟩ := frame_eq_ok.mp hf
    obtain ⟨⟨es, hes, hb, rfl⟩, hr⟩ := ih fs' hfs (fun q hq => ha q (List.mem_cons_of_mem _ hq))
    refine ⟨⟨e :: es, ?_, ?_, rfl⟩, ?_⟩
    · simp [List.mapM_cons, he, hes, bind, Except.bind, pure, Except.pure]
    · simpa [hs, hm] using hb
    · rw [List.flatten_cons,
        readAll_of_readFrame_ok (readFrame_frame _ he hs hm (ha p List.mem_cons_self)), hr,
        List.map_cons]

/-- Packets written one frame after another are read back in order, each equal to the packet
written, and reading then ends cleanly with no byte left; the stream is each packet's size
followed by its wire form. -/
theorem readAll_frames (c : Codec) (ps : List Packet) (fs : List Bytes)
    (hw : ps.mapM c.frame = .ok fs) (ha : ∀ p ∈ ps, bundleAddress ∉ p.addresses) :
    (∃ es : List Bytes, ps.mapM c.encode = .ok es ∧
      (∀ e ∈ es, e.length ≤ Wire.Encode.maxSize ∧ e.length ≤ c.maxPacketSize) ∧
      fs = es.map fun e => Bytes.ofWord32 e.length.toUInt32 ++ e) ∧
    c.readAll fs.flatten = (ps.map Packet.asRead, .finished, []) ∧
    ∀ p ∈ ps, p.asRead.equal p = true := by
  obtain ⟨hframes, hread⟩ := readAll_flatten_frames c ps fs hw ha
  exact ⟨hframes, hread, fun p _ => Packet.asRead_equal p⟩

/-- A message and an empty bundle written as a stream are read back in order. -/
theorem readAll_frames_sample :
    [Packet.message ⟨[0x2F, 0x61], .ofList [some (.int32 1)]⟩, .bundle Timetag.immediate []].mapM
        Codec.default.frame =
      .ok [[0, 0, 0, 12, 0x2F, 0x61, 0, 0, 0x2C, 0x69, 0, 0, 0, 0, 0, 1],
        [0, 0, 0, 16] ++ bundleMarker ++ [0, 0, 0, 0, 0, 0, 0, 1]] ∧
    Codec.default.readAll ([[0, 0, 0, 12, 0x2F, 0x61, 0, 0, 0x2C, 0x69, 0, 0, 0, 0, 0, 1],
        [0, 0, 0, 16] ++ bundleMarker ++ [0, 0, 0, 0, 0, 0, 0, 1]] : List Bytes).flatten =
      ([.message ⟨[0x2F, 0x61], .ofList [some (.int32 1)]⟩, .bundle Timetag.immediate []], .finished,
        []) := by
  have hw : [Packet.message ⟨[0x2F, 0x61], .ofList [some (.int32 1)]⟩, .bundle Timetag.immediate []].mapM
      Codec.default.frame =
      .ok [[0, 0, 0, 12, 0x2F, 0x61, 0, 0, 0x2C, 0x69, 0, 0, 0, 0, 0, 1],
        [0, 0, 0, 16] ++ bundleMarker ++ [0, 0, 0, 0, 0, 0, 0, 1]] := by
    cbv
  exact ⟨hw, (readAll_frames _ _ _ hw (by decide)).2.1⟩

end Codec

end SoundControl
