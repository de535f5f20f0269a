import SoundControl.Proofs.Wire.Equations

/-! # Wire forms are aligned to 32 bits

Every part of a wire form starts at a multiple of four from the start of the buffer
(`PacketAt`), and every wire form is a whole number of words (`encode_aligned`). -/

namespace SoundControl

namespace Wire

/-! ## Parts at offsets -/

/-- The bytes `x` stand in the buffer `e` from offset `o` on. -/
def StandsAt (e : Bytes) (o : Nat) (x : Bytes) : Prop := x <+: e.drop o

/-- The string `s` stands at offset `o` of `e`, a multiple of four, followed by one to four NULs,
the fewest that end it at a multiple of four, where the next part starts at `o'`. -/
def StringAt (e : Bytes) (o : Nat) (s : Bytes) (o' : Nat) : Prop :=
  o % 4 = 0 ∧ ∃ k, 1 ≤ k ∧ k ≤ 4 ∧ (s.length + k) % 4 = 0 ∧ o' = o + s.length + k ∧
    StandsAt e o (s ++ Bytes.zeros k)

/-- The bytes `d` of a blob stand at offset `o` of `e`, a multiple of four, followed by at most
three zero bytes, the fewest that end them at a multiple of four, where the next part starts at
`o'`. -/
def BlobBytesAt (e : Bytes) (o : Nat) (d : Bytes) (o' : Nat) : Prop :=
  o % 4 = 0 ∧ ∃ k, k ≤ 3 ∧ (d.length + k) % 4 = 0 ∧ o' = o + d.length + k ∧
    StandsAt e o (d ++ Bytes.zeros k)

/-- The payload of an argument stands at offset `o` of `e`, and the next part starts at `o'`. -/
inductive PayloadAt (e : Bytes) : Nat → Argument → Nat → Prop where
  /-- An integer is its 32-bit word. -/
  | int32 {o : Nat} {v : Int32} (ho : o % 4 = 0) (hw : StandsAt e o (Bytes.ofWord32 v.toUInt32)) :
      PayloadAt e o (.int32 v) (o + 4)
  /-- A float is the 32-bit word of its bits. -/
  | float32 {o : Nat} {bits : UInt32} (ho : o % 4 = 0) (hw : StandsAt e o (Bytes.ofWord32 bits)) :
      PayloadAt e o (.float32 bits) (o + 4)
  /-- A string is its padded bytes. -/
  | string {o o' : Nat} {s : Bytes} (hs : StringAt e o s o') : PayloadAt e o (.string s) o'
  /-- A blob is its length as a 32-bit word, then its padded bytes. -/
  | blob {o o' : Nat} {d : Slice UInt8} (ho : o % 4 = 0)
      (hw : StandsAt e o (Bytes.ofWord32 d.toList.length.toUInt32))
      (hd : BlobBytesAt e (o + 4) d.toList o') :
      PayloadAt e o (.blob d) o'

/-- Payloads stand one after the other from offset `o` of `e` up to `o'`. -/
inductive PayloadsAt (e : Bytes) : Nat → List Argument → Nat → Prop where
  | nil {o : Nat} : PayloadsAt e o [] o
  | cons {o o₁ o' : Nat} {a : Argument} {as : List Argument} (ha : PayloadAt e o a o₁)
      (has : PayloadsAt e o₁ as o') : PayloadsAt e o (a :: as) o'

mutual

/-- The wire form of a packet stands at offset `o` of `e`, each of its parts where the format puts
it, and ends at `o'`. -/
inductive PacketAt (e : Bytes) : Nat → Packet → Nat → Prop where
  /-- A message is its address, its type tag string (a comma and one letter per argument) and
  its payloads. -/
  | message {o o₁ o₂ o' : Nat} {m : Message} {as : List Argument} (hargs : m.args = as.map some)
      (haddr : StringAt e o m.address o₁) (htags : StringAt e o₁ (0x2C :: as.map Argument.tagByte) o₂)
      (hbody : PayloadsAt e o₂ as o') : PacketAt e o (.message m) o'
  /-- A bundle is the marker and its time tag, then its elements. -/
  | bundle {o o' : Nat} {tt : Timetag} {els : List Packet} (ho : o % 4 = 0)
      (hhead : StandsAt e o (bundleMarker ++ Bytes.ofWord64 tt.bits))
      (hels : ElementsAt e (o + 16) els o') : PacketAt e o (.bundle tt els) o'

/-- Bundle elements stand one after the other from offset `o` of `e` up to `o'`, each its size as
a 32-bit word and then its wire form. -/
inductive ElementsAt (e : Bytes) : Nat → List Packet → Nat → Prop where
  | nil {o : Nat} : ElementsAt e o [] o
  | cons {o o₁ o' : Nat} {p : Packet} {ps : List Packet} (ho : o % 4 = 0)
      (hsize : StandsAt e o (Bytes.ofWord32 (o₁ - (o + 4)).toUInt32))
      (hp : PacketAt e (o + 4) p o₁) (hps : ElementsAt e o₁ ps o') : ElementsAt e o (p :: ps) o'

end

/-- What stands at an offset splits into what stands there and what stands right after it. -/
theorem StandsAt.append {e x y : Bytes} {o : Nat} (h : StandsAt e o (x ++ y)) :
    StandsAt e o x ∧ StandsAt e (o + x.length) y := by
  obtain ⟨t, ht⟩ := h
  refine ⟨⟨y ++ t, by rw [← ht, List.append_assoc]⟩, t, ?_⟩
  rw [← List.drop_drop, ← ht, List.append_assoc, List.drop_left]

theorem StandsAt.whole (e : Bytes) : StandsAt e 0 e := by
  simp [StandsAt]

/-! ## The writers lay their parts out -/

namespace Encode

variable {e : Bytes} {o : Nat}

/-- A written string stands padded at an aligned offset, and is a whole number of words. -/
theorem stringAt_of_paddedString {s f : Bytes} (h : paddedString s = .ok f) (ho : o % 4 = 0)
    (hf : StandsAt e o f) : StringAt e o s (o + f.length) ∧ f.length % 4 = 0 := by
  obtain ⟨-, -, -, rfl⟩ := paddedString_eq_ok.mp h
  have hk := Bytes.padding_add_mod (s.length + 1)
  have hlt := Bytes.padding_lt (s.length + 1)
  simp only [List.length_append, Bytes.zeros_length]
  exact ⟨⟨ho, _, by omega, by omega, by omega, by omega, hf⟩, by omega⟩

/-- A written payload stands laid out at an aligned offset, and is a whole number of words. -/
theorem payloadAt_of_payload {a : Argument} {f : Bytes} (h : payload a = .ok f) (ho : o % 4 = 0)
    (hf : StandsAt e o f) : PayloadAt e o a (o + f.length) ∧ f.length % 4 = 0 := by
  cases a with
  | int32 v =>
    cases h
    exact ⟨.int32 ho hf, by rw [Bytes.ofWord32_length]⟩
  | float32 bits =>
    cases h
    exact ⟨.float32 ho hf, by rw [Bytes.ofWord32_length]⟩
  | string s =>
    obtain ⟨hs, hs4⟩ := stringAt_of_paddedString h ho hf
    exact ⟨.string hs, hs4⟩
  | blob d =>
    obtain ⟨-, rfl⟩ := blob_eq_ok.mp h
    -- the length word, then the bytes and their padding
    rw [List.append_assoc] at hf
    obtain ⟨hw, hd⟩ := StandsAt.append hf
    have hk := Bytes.padding_add_mod d.toList.length
    have hlt := Bytes.padding_lt d.toList.length
    simp only [List.length_append, Bytes.ofWord32_length, Bytes.zeros_length] at hd ⊢
    exact ⟨.blob ho hw ⟨by omega, _, by omega, hk, by omega, hd⟩, by omega⟩

/-- Written payloads stand one after the other from an aligned offset, and are a whole number of
words. -/
theorem payloadsAt_of_payloads {i : Nat} {as : List Argument} {f : Bytes}
    (h : payloads i (as.map some) = .ok f) (ho : o % 4 = 0) (hf : StandsAt e o f) :
    PayloadsAt e o as (o + f.length) ∧ f.length % 4 = 0 := by
  induction as generalizing i o f with
  | nil =>
    cases h
    exact ⟨.nil, rfl⟩
  | cons a as ih =>
    obtain ⟨bs, tail, ha, ht, rfl⟩ := payloads_cons_eq_ok.mp h
    obtain ⟨hbs, htail⟩ := StandsAt.append hf
    obtain ⟨hpa, hbs4⟩ := payloadAt_of_payload ha ho hbs
    obtain ⟨hpas, htail4⟩ := ih ht (by omega) htail
    rw [List.length_append, ← Nat.add_assoc]
    exact ⟨.cons hpa hpas, by omega⟩

/-- A written message stands laid out at an aligned offset, and is a whole number of words. -/
theorem packetAt_of_message {m : Message} {f : Bytes} (h : message m = .ok f) (ho : o % 4 = 0)
    (hf : StandsAt e o f) : PacketAt e o (.message m) (o + f.length) ∧ f.length % 4 = 0 := by
  obtain ⟨as, address, tags, body, has, hA, hT, hB, rfl⟩ := message_eq_ok.mp h
  obtain ⟨hat, hbody⟩ := StandsAt.append hf
  obtain ⟨haddr, htags⟩ := StandsAt.append hat
  obtain ⟨hsA, hA4⟩ := stringAt_of_paddedString hA ho haddr
  obtain ⟨hsT, hT4⟩ := stringAt_of_paddedString hT (by omega) htags
  rw [has] at hB
  obtain ⟨hpB, hB4⟩ := payloadsAt_of_payloads hB (by simp only [List.length_append]; omega) hbody
  simp only [List.length_append, ← Nat.add_assoc] at hpB ⊢
  exact ⟨.message has hsA hsT hpB, by omega⟩

/-- A written packet, and the written elements of a bundle, stand laid out at every aligned offset
of every buffer that holds them, and are a whole number of words. -/
theorem packetAt_of_packet (limit : Nat) :
    (∀ depth p f, packet limit depth p = .ok f → ∀ e o, o % 4 = 0 → StandsAt e o f →
      PacketAt e o p (o + f.length) ∧ f.length % 4 = 0) ∧
    (∀ depth i ps f, elements limit depth i ps = .ok f → ∀ e o, o % 4 = 0 → StandsAt e o f →
      ElementsAt e o ps (o + f.length) ∧ f.length % 4 = 0) := by
  refine packet.mutual_induct limit
    (fun depth p => ∀ f, packet limit depth p = .ok f → ∀ e o, o % 4 = 0 → StandsAt e o f →
      PacketAt e o p (o + f.length) ∧ f.length % 4 = 0)
    (fun depth i ps => ∀ f, elements limit depth i ps = .ok f → ∀ e o, o % 4 = 0 →
      StandsAt e o f → ElementsAt e o ps (o + f.length) ∧ f.length % 4 = 0)
    ?_ ?_ ?_ ?_ ?_ ?_ ?_ ?_ ?_ ?_ ?_
  -- what cannot be written lays nothing out
  · intro depth f h
    cases h
  · intro depth f h
    cases h
  · intro depth f h
    cases h
  · intro depth m f h e o ho hf
    exact packetAt_of_message h ho hf
  · intro depth tt els hd f h
    simp [packet, hd] at h
  · intro depth tt els _ ih f h e o ho hf
    obtain ⟨-, body, hb, rfl⟩ := packet_bundle_eq_ok.mp h
    -- the marker and the time tag take sixteen bytes, so the elements start aligned
    obtain ⟨hhead, hbody⟩ := StandsAt.append hf
    have h16 : (bundleMarker ++ Bytes.ofWord64 tt.bits).length = 16 := rfl
    rw [h16] at hbody
    obtain ⟨hels, hb4⟩ := ih body hb e (o + 16) (by omega) hbody
    rw [List.length_append, h16, ← Nat.add_assoc]
    exact ⟨.bundle ho hhead hels, by omega⟩
  · intro depth i f h e o _ _
    cases h
    exact ⟨.nil, rfl⟩
  · intro depth i tail f h
    cases h
  · intro depth i p rest _ err he _ f h
    exact absurd h (elements_cons_ne_ok_of_error he)
  · intro depth i p rest _ pb hq err hc _ f h
    exact absurd h (elements_cons_ne_ok_of_checkSize hq hc)
  · intro depth i p rest _ pb hq _ ih ihs f h e o ho hf
    obtain ⟨-, pb', tail, hq', -, ht, rfl⟩ := elements_cons_eq_ok.mp h
    rw [hq, Except.ok.injEq] at hq'
    subst hq'
    -- the size word, the element after it, and the elements after the element
    obtain ⟨hsp, htail⟩ := StandsAt.append hf
    obtain ⟨hsize, hpb⟩ := StandsAt.append hsp
    simp only [List.length_append, Bytes.ofWord32_length] at hpb htail ⊢
    obtain ⟨hp, hpb4⟩ := ih pb hq e (o + 4) (by omega) hpb
    obtain ⟨hrest, htail4⟩ := ihs tail ht e (o + (4 + pb.length)) (by omega) htail
    have hsize' : StandsAt e o (Bytes.ofWord32 (o + 4 + pb.length - (o + 4)).toUInt32) := by
      rwa [Nat.add_sub_cancel_left]
    rw [← Nat.add_assoc o 4] at hrest
    rw [show o + (4 + pb.length + tail.length) = o + 4 + pb.length + tail.length by omega]
    exact ⟨.cons ho hsize' hp hrest, by omega⟩

end Encode

end Wire

/-- Every wire form is a whole number of 32-bit words, and laid out so that each address, type
tag string, payload, blob's bytes and bundle element starts at a multiple of four bytes from its
start, each string followed by one to four NULs and each blob's bytes by at most three zero
bytes, the fewest that reach the next multiple of four. -/
theorem encode_aligned (c : Codec) (p : Packet) (e : Bytes) (h : c.encode p = .ok e) :
    e.length % 4 = 0 ∧ Wire.PacketAt e 0 p e.length := by
  obtain ⟨hp, he⟩ := (Wire.Encode.packetAt_of_packet c.maxDepth).1 0 p e h e 0 rfl
    (Wire.StandsAt.whole e)
  rw [Nat.zero_add] at hp
  exact ⟨he, hp⟩

/-- A bundle holding the message `/ab` with the string `x` and a one-byte blob is written as ten
words, with the address, the type tags, the string and the blob's byte each padded to a word. -/
theorem encode_aligned_sample :
    Codec.default.encode (.bundle Timetag.immediate
        [.message ⟨[0x2F, 0x61, 0x62], Slice.ofList [some (.string [0x78]), some (.blob (.ofList [7]))]⟩]) =
      .ok (bundleMarker ++ [0, 0, 0, 0, 0, 0, 0, 1, 0, 0, 0, 20,
        0x2F, 0x61, 0x62, 0, 0x2C, 0x73, 0x62, 0, 0x78, 0, 0, 0, 0, 0, 0, 1, 7, 0, 0, 0]) ∧
    (bundleMarker ++ [0, 0, 0, 0, 0, 0, 0, 1, 0, 0, 0, 20,
        0x2F, 0x61, 0x62, 0, 0x2C, 0x73, 0x62, 0, 0x78, 0, 0, 0, 0, 0, 0, 1, 7, 0, 0, 0]).length %
      4 = 0 ∧
    Wire.PacketAt (bundleMarker ++ [0, 0, 0, 0, 0, 0, 0, 1, 0, 0, 0, 20,
        0x2F, 0x61, 0x62, 0, 0x2C, 0x73, 0x62, 0, 0x78, 0, 0, 0, 0, 0, 0, 1, 7, 0, 0, 0]) 0
      (.bundle Timetag.immediate
        [.message ⟨[0x2F, 0x61, 0x62], Slice.ofList [some (.string [0x78]), some (.blob (.ofList [7]))]⟩])
      (bundleMarker ++ [0, 0, 0, 0, 0, 0, 0, 1, 0, 0, 0, 20,
        0x2F, 0x61, 0x62, 0, 0x2C, 0x73, 0x62, 0, 0x78, 0, 0, 0, 0, 0, 0, 1, 7, 0, 0, 0]).length := by
  have hs : Wire.Encode.paddedString [0x78] = .ok [0x78, 0, 0, 0] :=
    Wire.Encode.paddedString_eq_ok.mpr ⟨by decide, Utf8.valid_of_lt (by simp), by decide, rfl⟩
  have hb : Wire.Encode.payloads 0 [some (.string [0x78]), some (.blob (.ofList [7]))] =
      .ok [0x78, 0, 0, 0, 0, 0, 0, 1, 7, 0, 0, 0] :=
    Wire.Encode.payloads_cons_eq_ok.mpr ⟨_, _, hs,
      Wire.Encode.payloads_cons_eq_ok.mpr ⟨_, [], Wire.Encode.blob_eq_ok.mpr ⟨by decide, rfl⟩,
        rfl, rfl⟩, rfl⟩
  have hm : Wire.Encode.message ⟨[0x2F, 0x61, 0x62], Slice.ofList [some (.string [0x78]), some (.blob (.ofList [7]))]⟩ =
      .ok [0x2F, 0x61, 0x62, 0, 0x2C, 0x73, 0x62, 0, 0x78, 0, 0, 0, 0, 0, 0, 1, 7, 0, 0, 0] :=
    Wire.Encode.message_eq_ok.mpr ⟨[.string [0x78], .blob (.ofList [7])], [0x2F, 0x61, 0x62, 0],
      [0x2C, 0x73, 0x62, 0], _, rfl,
      Wire.Encode.paddedString_eq_ok.mpr ⟨by decide, Utf8.valid_of_lt (by simp), by decide, rfl⟩,
      Wire.Encode.paddedString_eq_ok.mpr ⟨by decide, Utf8.valid_tags _, by decide, rfl⟩, hb, rfl⟩
  have he : Codec.default.encode (.bundle Timetag.immediate
      [.message ⟨[0x2F, 0x61, 0x62], Slice.ofList [some (.string [0x78]), some (.blob (.ofList [7]))]⟩]) =
      .ok (bundleMarker ++ [0, 0, 0, 0, 0, 0, 0, 1, 0, 0, 0, 20,
        0x2F, 0x61, 0x62, 0, 0x2C, 0x73, 0x62, 0, 0x78, 0, 0, 0, 0, 0, 0, 1, 7, 0, 0, 0]) :=
    Wire.Encode.packet_bundle_eq_ok.mpr ⟨by decide, _,
      Wire.Encode.elements_cons_eq_ok.mpr ⟨by simp, _, [], hm, by decide, rfl, rfl⟩, rfl⟩
  exact ⟨he, encode_aligned _ _ _ he⟩

end SoundControl
