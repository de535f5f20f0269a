import SoundControl.Proofs.Wire.Equations
import SoundControl.Proofs.Packet.Equality

/-! # Reading back what was written

The reader gives back every packet that the writer accepts, at every nesting level, as the reader
builds it and so equal to it, unless a message's address is `#bundle` (`decode_encode`). -/

namespace SoundControl

mutual

/-- The addresses of the messages of a packet, in writing order. -/
def Packet.addresses : Packet → List Bytes
  | .message m => [m.address]
  | .bundle _ els => Packet.addressesAll els
  | _ => []

/-- The addresses of the messages of a list of packets, in writing order. -/
def Packet.addressesAll : List Packet → List Bytes
  | [] => []
  | p :: ps => p.addresses ++ Packet.addressesAll ps

end

namespace Wire

/-! ## Arguments and messages -/

theorem argument_of_payload {a : Argument} {pl : Bytes} (stop : Nat) (r : Bytes)
    (h : Encode.payload a = .ok pl) :
    Decode.argument stop a.tagByte (pl ++ r) = .ok (a.asRead, r) := by
  cases a with
  | int32 v =>
    simp only [Encode.payload, Except.ok.injEq] at h
    subst h
    rw [Argument.tagByte, Decode.argument_int32, Decode.word32_eq_ok.mpr rfl]
    simp [Except.map, Argument.asRead]
  | float32 bits =>
    simp only [Encode.payload, Except.ok.injEq] at h
    subst h
    rw [Argument.tagByte, Decode.argument_float32, Decode.word32_eq_ok.mpr rfl]
    rfl
  | string s =>
    obtain ⟨h0, hv, -, rfl⟩ := Encode.paddedString_eq_ok.mp h
    rw [Argument.tagByte, Decode.argument_string,
      Decode.text_eq_ok.mpr ⟨hv, Decode.paddedString_eq_ok.mpr ⟨h0, rfl⟩⟩]
    rfl
  | blob d =>
    obtain ⟨hm, rfl⟩ := Encode.blob_eq_ok.mp h
    rw [Argument.tagByte, Decode.argument_blob,
      Decode.blob_eq_ok.mpr ⟨_, Encode.toNat_toUInt32_of_le hm, rfl⟩]
    rfl

theorem arguments_of_payloads {as : List Argument} {body : Bytes} (stop i : Nat) (r : Bytes)
    (h : Encode.payloads i (as.map some) = .ok body) :
    Decode.arguments stop i (as.map Argument.tagByte) (body ++ r) =
      .ok (as.map fun a => some a.asRead, r) := by
  induction as generalizing i body with
  | nil =>
    simp only [List.map_nil, Encode.payloads, Except.ok.injEq] at h
    subst h
    rfl
  | cons a as ih =>
    obtain ⟨pl, tail, ha, ht, rfl⟩ := Encode.payloads_cons_eq_ok.mp h
    rw [List.map_cons, List.map_cons, List.append_assoc]
    exact Decode.arguments_cons_eq_ok.mpr
      ⟨a.asRead, tail ++ r, _, argument_of_payload stop _ ha, ih (i + 1) ht, rfl⟩

theorem message_of_encode {m : Message} {bs : Bytes} (stop : Nat)
    (h : Encode.message m = .ok bs) : Decode.message stop bs = .ok m.asRead := by
  obtain ⟨as, address, tags, body, has, hA, hT, hB, rfl⟩ := Encode.message_eq_ok.mp h
  obtain ⟨h0, hv, -, rfl⟩ := Encode.paddedString_eq_ok.mp hA
  obtain ⟨t0, -, -, rfl⟩ := Encode.paddedString_eq_ok.mp hT
  rw [has] at hB
  have hargs : m.asRead.args = as.map fun a => some a.asRead := by
    simp [has, Function.comp_def]
  refine Decode.message_eq_ok.mpr ⟨(0x2C :: as.map Argument.tagByte) ++
    Bytes.zeros (1 + Bytes.padding ((0x2C :: as.map Argument.tagByte).length + 1)) ++ body,
    ?_, ?_, ?_⟩
  · rw [Message.address_asRead, List.append_assoc]
    exact Decode.text_eq_ok.mpr ⟨hv, Decode.paddedString_eq_ok.mpr ⟨h0, rfl⟩⟩
  · rw [hargs]
    refine Decode.typedArguments_eq_ok.mpr
      ⟨as.map Argument.tagByte, body, Decode.paddedString_eq_ok.mpr ⟨t0, rfl⟩, ?_⟩
    simpa using arguments_of_payloads stop 0 [] hB
  -- the reader's slots are nil exactly when there are none
  · rw [Message.args_asRead]
    rfl

/-! ## Telling messages from bundles -/

/-- A NUL-free string and its NUL start with the bundle marker only when the string is the
address that the marker spells. -/
theorem eq_bundleAddress_of_marker {s t : Bytes} (hs : 0 ∉ s)
    (h : (s ++ 0 :: t).take 8 = bundleMarker) : s = bundleAddress := by
  by_cases hl : s.length ≤ 7
  · have ht : (s ++ 0 :: t).take 8 = s ++ 0 :: t.take (7 - s.length) := by
      rw [← take_append_cons, show s.length + 1 + (7 - s.length) = 8 by omega]
    rw [ht] at h
    -- the marker's only NUL is its last byte, so the string has exactly seven bytes
    have hpos := idxOf?_zero_eq_some.mpr ⟨s, t.take (7 - s.length), rfl, hs, rfl⟩
    rw [h, show bundleMarker.idxOf? 0 = some 7 from rfl, Option.some.injEq] at hpos
    rw [bundleAddress, ← h, List.take_left' hpos.symm]
  · rw [List.take_append_of_le_length (by omega)] at h
    have h0 : (0 : UInt8) ∈ s.take 8 := by
      rw [h]
      decide
    exact absurd (List.mem_of_mem_take h0) hs

/-- The wire form of a message whose address is not `#bundle` does not start with the marker. -/
theorem startsWithMarker_message {m : Message} {bs : Bytes} (h : Encode.message m = .ok bs)
    (ha : m.address ≠ bundleAddress) : Decode.startsWithMarker bs = false := by
  obtain ⟨as, address, tags, body, -, hA, -, -, rfl⟩ := Encode.message_eq_ok.mp h
  obtain ⟨h0, -, -, rfl⟩ := Encode.paddedString_eq_ok.mp hA
  have e : m.address ++ Bytes.zeros (1 + Bytes.padding (m.address.length + 1)) ++ tags ++ body =
      m.address ++ 0 :: (Bytes.zeros (Bytes.padding (m.address.length + 1)) ++ tags ++ body) := by
    simp [Bytes.zeros, Nat.add_comm 1, List.replicate_succ]
  rw [e]
  simp only [Decode.startsWithMarker, beq_eq_false_iff_ne]
  exact fun hm => ha (eq_bundleAddress_of_marker h0 hm)

/-! ## Packets -/

/-- Reading the wire form of a packet written under a nesting limit, one level deeper than the
level of its enclosing bundle, gives the packet back as the reader builds it; and reading the
size-prefixed elements of a bundle gives the elements back. -/
theorem packet_of_encode (limit : Nat) :
    (∀ depth p bs stop, Encode.packet limit depth p = .ok bs → bundleAddress ∉ p.addresses →
      Decode.packet limit (depth + 1) stop bs = .ok p.asRead) ∧
    (∀ depth i ps bs stop, Encode.elements limit depth i ps = .ok bs →
      bundleAddress ∉ Packet.addressesAll ps →
        Decode.elements limit depth stop i bs = .ok (Packet.asReadAll ps)) := by
  refine Encode.packet.mutual_induct limit
    (fun depth p => ∀ bs stop, Encode.packet limit depth p = .ok bs →
      bundleAddress ∉ p.addresses → Decode.packet limit (depth + 1) stop bs = .ok p.asRead)
    (fun depth i ps => ∀ bs stop, Encode.elements limit depth i ps = .ok bs →
      bundleAddress ∉ Packet.addressesAll ps →
        Decode.elements limit depth stop i bs = .ok (Packet.asReadAll ps))
    ?_ ?_ ?_ ?_ ?_ ?_ ?_ ?_ ?_ ?_ ?_
  -- the three references that point nowhere are never written
  · intro depth bs stop h
    simp [Encode.packet] at h
  · intro depth bs stop h
    simp [Encode.packet] at h
  · intro depth bs stop h
    simp [Encode.packet] at h
  -- a message is read as one, since its address is not the marker's
  · intro depth m bs stop h ha
    have hm : Decode.startsWithMarker bs = false :=
      startsWithMarker_message h (fun he => ha (by simp [Packet.addresses, he]))
    rw [Decode.packet.eq_1, hm]
    simp [Except.map, message_of_encode stop h, Packet.asRead]
  -- a bundle beyond the limit is never written
  · intro depth tt els hd bs stop h
    simp [Encode.packet, hd] at h
  -- a bundle is read as the marker, its time tag and its elements
  · intro depth tt els hd ih bs stop h ha
    obtain ⟨-, body, hb, rfl⟩ := Encode.packet_bundle_eq_ok.mp h
    have hm : Decode.startsWithMarker (bundleMarker ++ Bytes.ofWord64 tt.bits ++ body) = true := by
      simp [Decode.startsWithMarker, bundleMarker]
    rw [Decode.packet.eq_1, if_pos hm, Decode.bundle_marker, if_neg (by omega),
      ih body stop hb ha]
    rfl
  -- the empty element area
  · intro depth i bs stop h _
    simp only [Encode.elements, Except.ok.injEq] at h
    subst h
    exact Decode.elements.eq_1 ..
  -- an absent element is never written
  · intro depth i tail bs stop h
    simp [Encode.elements] at h
  -- an element that cannot be written
  · intro depth i p rest _ e he _ bs stop h
    exact absurd h (Encode.elements_cons_ne_ok_of_error he)
  -- an element too long for its size field
  · intro depth i p rest _ pb hq e hc _ bs stop h
    exact absurd h (Encode.elements_cons_ne_ok_of_checkSize hq hc)
  -- an element is read from its frame, and the rest after it
  · intro depth i p rest _ pb hq _ ih ihs bs stop h ha
    obtain ⟨-, pb', tail, hq', hm, ht, rfl⟩ := Encode.elements_cons_eq_ok.mp h
    rw [hq, Except.ok.injEq] at hq'
    subst hq'
    simp only [Packet.addressesAll, List.mem_append, not_or] at ha
    rw [List.append_assoc, Decode.elements_frame, Encode.toNat_toUInt32_of_le hm,
      if_neg (by simp), List.take_left, List.drop_left, ih pb _ hq ha.1, ihs tail stop ht ha.2]
    rfl

end Wire

/-- Reading the wire form of a packet gives back the packet as the reader builds it, which equals
the packet, at any nesting limit and for packets of any depth and width, unless one of its
messages has the address `#bundle`. -/
theorem decode_encode (c : Codec) (p : Packet) (bs : Bytes) (h : c.encode p = .ok bs)
    (ha : bundleAddress ∉ p.addresses) : c.decode bs = .ok p.asRead ∧ p.asRead.equal p = true :=
  ⟨(Wire.packet_of_encode c.maxDepth).1 0 p bs bs.length h ha, Packet.asRead_equal p⟩

/-- A bundle holding the message `/a` with an empty argument slice that is not nil is read back
from its wire form with a nil slice, a packet equal to it. -/
theorem decode_encode_sample :
    Codec.default.encode (.bundle Timetag.immediate [.message ⟨[0x2F, 0x61], .ofList []⟩]) =
      .ok (bundleMarker ++ [0, 0, 0, 0, 0, 0, 0, 1, 0, 0, 0, 8, 0x2F, 0x61, 0, 0, 0x2C, 0, 0, 0]) ∧
    bundleAddress ∉
      (Packet.bundle Timetag.immediate [.message ⟨[0x2F, 0x61], .ofList []⟩]).addresses ∧
    (Codec.default.decode
        (bundleMarker ++ [0, 0, 0, 0, 0, 0, 0, 1, 0, 0, 0, 8, 0x2F, 0x61, 0, 0, 0x2C, 0, 0, 0]) =
      .ok (.bundle Timetag.immediate [.message ⟨[0x2F, 0x61], .nil⟩]) ∧
    (Packet.bundle Timetag.immediate [.message ⟨[0x2F, 0x61], .nil⟩]).equal
      (.bundle Timetag.immediate [.message ⟨[0x2F, 0x61], .ofList []⟩]) = true) := by
  have hm : Wire.Encode.message ⟨[0x2F, 0x61], .ofList []⟩ =
      .ok [0x2F, 0x61, 0, 0, 0x2C, 0, 0, 0] :=
    Wire.Encode.message_eq_ok.mpr ⟨[], [0x2F, 0x61, 0, 0], [0x2C, 0, 0, 0], [], rfl,
      Wire.Encode.paddedString_eq_ok.mpr
        ⟨by decide, Utf8.valid_of_lt (by simp), by decide, rfl⟩,
      Wire.Encode.paddedString_eq_ok.mpr ⟨by decide, Utf8.valid_tags _, by decide, rfl⟩,
      rfl, rfl⟩
  have he : Codec.default.encode
      (.bundle Timetag.immediate [.message ⟨[0x2F, 0x61], .ofList []⟩]) =
      .ok (bundleMarker ++ [0, 0, 0, 0, 0, 0, 0, 1, 0, 0, 0, 8, 0x2F, 0x61, 0, 0, 0x2C, 0, 0, 0]) :=
    Wire.Encode.packet_bundle_eq_ok.mpr ⟨by decide, _,
      Wire.Encode.elements_cons_eq_ok.mpr ⟨by simp, _, [], hm, by decide, rfl, rfl⟩, rfl⟩
  have ha : bundleAddress ∉
      (Packet.bundle Timetag.immediate [.message ⟨[0x2F, 0x61], .ofList []⟩]).addresses := by
    decide
  exact ⟨he, ha, decode_encode _ _ _ he ha⟩

end SoundControl
