import SoundControl.Proofs.Wire.Nesting

/-! # Writing after other bytes

Appending a packet puts its wire form after the bytes already there, and a bundle is written as
its marker, its time tag and the frames of its elements, each written under a limit one lower
(`append_and_bundle_layout`). -/

namespace SoundControl

namespace Wire.Encode

/-! ## Back-filling a size -/

/-- A word written over the four bytes reserved right after `buf`. -/
theorem putWord32_reserved (buf bs : Bytes) (w : UInt32) :
    putWord32 (buf ++ Bytes.zeros 4 ++ bs) buf.length w = buf ++ Bytes.ofWord32 w ++ bs := by
  rw [putWord32, List.append_assoc buf, List.take_left, ← List.drop_drop, List.drop_left]
  rfl

theorem reserved_length_sub (buf bs : Bytes) :
    (buf ++ Bytes.zeros 4 ++ bs).length - buf.length - 4 = bs.length := by
  simp only [List.length_append, Bytes.zeros_length]
  omega

/-- Writing a packet into a buffer puts its wire form after the bytes already there, and fails as
encoding it does; the same holds of a bundle's elements. -/
theorem appendPacket_eq_map (limit : Nat) :
    (∀ depth p buf, appendPacket limit depth buf p = (packet limit depth p).map (buf ++ ·)) ∧
    (∀ depth i ps buf,
      appendElements limit depth i buf ps = (elements limit depth i ps).map (buf ++ ·)) := by
  refine packet.mutual_induct limit
    (fun depth p => ∀ buf, appendPacket limit depth buf p = (packet limit depth p).map (buf ++ ·))
    (fun depth i ps => ∀ buf,
      appendElements limit depth i buf ps = (elements limit depth i ps).map (buf ++ ·))
    ?_ ?_ ?_ ?_ ?_ ?_ ?_ ?_ ?_ ?_ ?_
  -- references that point nowhere fail alike, and a message only appends its bytes
  · intro depth buf
    rfl
  · intro depth buf
    rfl
  · intro depth buf
    rfl
  · intro depth m buf
    rfl
  -- a bundle: the limit first, then the marker and time tag after the buffer
  · intro depth tt els hd buf
    rw [appendPacket, packet, if_pos hd, if_pos hd]
    rfl
  · intro depth tt els hd ih buf
    rw [appendPacket, packet, if_neg hd, if_neg hd, ih]
    cases elements limit (depth + 1) 0 els <;> simp [Except.map]
  -- elements: each reserved size is filled in with the length of the element written after it
  · intro depth i buf
    simp [appendElements, elements, Except.map]
  · intro depth i tail buf
    rfl
  · intro depth i p rest hp e he ih buf
    rw [appendElements.eq_3 _ _ _ _ _ _ hp, elements.eq_3 _ _ _ _ _ hp, ih, he]
    rfl
  · intro depth i p rest hp bs hq e hc ih buf
    rw [appendElements.eq_3 _ _ _ _ _ _ hp, elements.eq_3 _ _ _ _ _ hp, ih, hq]
    simp only [Except.map, reserved_length_sub, hc]
  · intro depth i p rest hp bs hq hc ih ihs buf
    rw [appendElements.eq_3 _ _ _ _ _ _ hp, elements.eq_3 _ _ _ _ _ hp, ih, hq]
    simp only [Except.map, reserved_length_sub, hc, putWord32_reserved]
    rw [ihs]
    cases elements limit depth (i + 1) rest <;> simp [Except.map]

/-! ## One level deeper -/

/-- The writer reads the nesting limit only against the level: one level deeper under a limit one
higher, a packet and a bundle's elements are written the same. -/
theorem packet_lifted_eq_ok (limit : Nat) :
    (∀ depth p bs, packet (limit + 1) (depth + 1) p = .ok bs ↔ packet limit depth p = .ok bs) ∧
    (∀ depth i ps bs,
      elements (limit + 1) (depth + 1) i ps = .ok bs ↔ elements limit depth i ps = .ok bs) := by
  refine packet.mutual_induct limit
    (fun depth p => ∀ bs, packet (limit + 1) (depth + 1) p = .ok bs ↔ packet limit depth p = .ok bs)
    (fun depth i ps => ∀ bs,
      elements (limit + 1) (depth + 1) i ps = .ok bs ↔ elements limit depth i ps = .ok bs)
    ?_ ?_ ?_ ?_ ?_ ?_ ?_ ?_ ?_ ?_ ?_
  · intro depth bs
    simp [packet]
  · intro depth bs
    simp [packet]
  · intro depth bs
    simp [packet]
  · intro depth m bs
    exact Iff.rfl
  -- a bundle is within the limit at both levels or at neither
  · intro depth tt els hd bs
    rw [packet_bundle_eq_ok, packet_bundle_eq_ok]
    constructor <;> rintro ⟨hle, -⟩ <;> omega
  · intro depth tt els hd ih bs
    rw [packet_bundle_eq_ok, packet_bundle_eq_ok]
    simp only [ih, Nat.add_le_add_iff_right]
  · intro depth i bs
    exact Iff.rfl
  · intro depth i tail bs
    simp [elements]
  -- an element that fails, or is too long, fails at both levels
  · intro depth i p rest hp e he ih bs
    rw [elements_cons_eq_ok, elements_cons_eq_ok]
    simp [ih, he]
  · intro depth i p rest hp pb hq e hc ih bs
    have hm : ¬ pb.length ≤ maxSize := fun h => by
      rw [(checkSize_eq_ok (u := ())).mpr h] at hc
      cases hc
    rw [elements_cons_eq_ok, elements_cons_eq_ok]
    simp [ih, hq, hm]
  · intro depth i p rest hp pb hq hc ih ihs bs
    rw [elements_cons_eq_ok, elements_cons_eq_ok]
    simp only [ih, ihs]

/-- A bundle's elements are written exactly when each is written within a size field, and then as
their frames. -/
theorem elements_eq_ok_iff {limit depth i : Nat} {ps : List Packet} (hps : ∀ p ∈ ps, p ≠ .absent)
    {body : Bytes} :
    elements limit depth i ps = .ok body ↔
      ∃ es, List.Forall₂ (fun p e => packet limit depth p = .ok e ∧ e.length ≤ maxSize) ps es ∧
        body = Bytes.framed es := by
  -- induction on the elements, each written after the size of the one before
  induction ps generalizing i body with
  | nil =>
    simp only [elements, Except.ok.injEq, List.forall₂_nil_left_iff, exists_eq_left,
      Bytes.framed_nil, eq_comm]
  | cons p ps ih =>
    have hps' : ∀ q ∈ ps, q ≠ .absent := fun q hq => hps q (List.mem_cons_of_mem _ hq)
    rw [elements_cons_eq_ok]
    constructor
    · rintro ⟨-, e, tail, he, hm, ht, rfl⟩
      obtain ⟨es, hes, rfl⟩ := (ih hps').mp ht
      refine ⟨e :: es, List.Forall₂.cons ⟨he, hm⟩ hes, ?_⟩
      rw [Bytes.framed_cons, List.append_assoc]
    · rintro ⟨_, hall, rfl⟩
      obtain ⟨e, es, ⟨he, hm⟩, hes, rfl⟩ := List.forall₂_cons_left_iff.mp hall
      exact ⟨hps p List.mem_cons_self, _, _, he, hm, (ih hps').mpr ⟨_, hes, rfl⟩,
        by rw [Bytes.framed_cons, List.append_assoc]⟩

end Wire.Encode

/-- Writing after other bytes keeps them: under every codec, appending a packet to a prefix gives
the prefix followed by the packet's encoding, and fails exactly when encoding fails, with the same
failure. And a bundle of non-absent elements is written, under a limit one higher, exactly when
each element is written on its own within a size field, and then as the marker, the time tag and
each element after its length as a 32-bit word. -/
theorem append_and_bundle_layout :
    (∀ (c : Codec) (pre : Bytes) (p : Packet), c.append pre p = (c.encode p).map (pre ++ ·)) ∧
    ∀ (c c' : Codec), c'.maxDepth = c.maxDepth + 1 → ∀ (tt : Timetag) (ps : List Packet),
      (∀ p ∈ ps, p ≠ .absent) → ∀ out, c'.encode (.bundle tt ps) = .ok out ↔
        ∃ es : List Bytes,
          List.Forall₂ (fun p e => c.encode p = .ok e ∧ e.length ≤ Wire.Encode.maxSize) ps es ∧
          out = bundleLayout tt es := by
  refine ⟨fun c pre p => (Wire.Encode.appendPacket_eq_map c.maxDepth).1 0 p pre, ?_⟩
  intro c c' hc tt ps hps out
  rw [Codec.encode, hc, Wire.Encode.packet_bundle_eq_ok]
  -- the elements at level one under the higher limit are those at the top under the lower one
  simp only [(Wire.Encode.packet_lifted_eq_ok c.maxDepth).2 0 0 ps,
    Wire.Encode.elements_eq_ok_iff hps]
  constructor
  · rintro ⟨-, body, ⟨es, hes, rfl⟩, rfl⟩
    exact ⟨es, hes, rfl⟩
  · rintro ⟨es, hes, rfl⟩
    exact ⟨by omega, _, ⟨es, hes, rfl⟩, rfl⟩

/-- The bundle of the message `/a` is written under limit two from its element written under
limit one. -/
theorem append_and_bundle_layout_sample :
    ({ maxDepth := 2 } : Codec).maxDepth = ({ maxDepth := 1 } : Codec).maxDepth + 1 ∧
    (∀ p ∈ [Packet.message ⟨[0x2F, 0x61], .nil⟩], p ≠ .absent) ∧
    ∀ out, ({ maxDepth := 2 } : Codec).encode
        (.bundle Timetag.immediate [.message ⟨[0x2F, 0x61], .nil⟩]) = .ok out ↔
      ∃ es : List Bytes, List.Forall₂ (fun p e => ({ maxDepth := 1 } : Codec).encode p = .ok e ∧
          e.length ≤ Wire.Encode.maxSize) [.message ⟨[0x2F, 0x61], .nil⟩] es ∧
        out = bundleLayout Timetag.immediate es :=
  ⟨rfl, by simp, append_and_bundle_layout.2 _ _ rfl _ _ (by simp)⟩

end SoundControl
