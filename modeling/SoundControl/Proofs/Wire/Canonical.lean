import SoundControl.Proofs.Wire.Equations

/-! # The wire form is canonical

Whatever the reader accepts, the writer writes back byte for byte (`encode_decode`). On their
own, the string and blob forms are one to one with their values (`string_blob_forms_read_back`),
except that the string reader accepts strings that are not UTF-8, which the writer refuses. -/

namespace SoundControl

namespace Wire

/-! ## Strings and blobs -/

namespace Decode

/-- The string reader reads back what the string writer wrote, whatever follows. -/
theorem paddedString_of_encode {stop : Nat} {field : String} {s e : Bytes} (t : Bytes)
    (h : Encode.paddedString s = .ok e) : paddedString stop field (e ++ t) = .ok (s, t) := by
  obtain ⟨h0, -, -, rfl⟩ := Encode.paddedString_eq_ok.mp h
  exact paddedString_eq_ok.mpr ⟨h0, rfl⟩

/-- The blob reader reads back what the blob writer wrote, whatever follows. -/
theorem blob_of_encode {stop : Nat} {x e : Bytes} (t : Bytes) (h : Encode.blob x = .ok e) :
    blob stop (e ++ t) = .ok (x, t) := by
  obtain ⟨hm, rfl⟩ := Encode.blob_eq_ok.mp h
  exact blob_eq_ok.mpr ⟨_, Encode.toNat_toUInt32_of_le hm, rfl⟩

/-- What the blob reader consumes is the length of the blob it returns, as a word, its bytes and
their padding. -/
theorem blob_consumed {stop : Nat} {u d r : Bytes} (h : blob stop u = .ok (d, r)) :
    u = Bytes.ofWord32 d.length.toUInt32 ++ d ++ Bytes.zeros (Bytes.padding d.length) ++ r := by
  obtain ⟨w, hw, rfl⟩ := blob_eq_ok.mp h
  rw [← hw, Nat.toUInt32_eq, UInt32.ofNat_toNat]

end Decode

/-! ## Arguments and messages -/

theorem payload_of_argument {stop : Nat} {t : UInt8} {bs r : Bytes} {a : Argument}
    (h : Decode.argument stop t bs = .ok (a, r)) :
    ∃ pl, bs = pl ++ r ∧ t = a.tagByte ∧
      (pl.length ≤ Encode.maxSize → Encode.payload a = .ok pl) := by
  unfold Decode.argument at h
  split_ifs at h with h1 h2 h3 h4
  · obtain ⟨⟨w, r'⟩, hw, he⟩ := Except.map_eq_ok.mp h
    simp only [Prod.mk.injEq] at he
    obtain ⟨rfl, rfl⟩ := he
    refine ⟨Bytes.ofWord32 w, Decode.word32_eq_ok.mp hw, h1, fun _ => ?_⟩
    simp [Encode.payload]
  · obtain ⟨⟨w, r'⟩, hw, he⟩ := Except.map_eq_ok.mp h
    simp only [Prod.mk.injEq] at he
    obtain ⟨rfl, rfl⟩ := he
    exact ⟨Bytes.ofWord32 w, Decode.word32_eq_ok.mp hw, h2, fun _ => rfl⟩
  · obtain ⟨⟨s, r'⟩, hs, he⟩ := Except.map_eq_ok.mp h
    simp only [Prod.mk.injEq] at he
    obtain ⟨rfl, rfl⟩ := he
    obtain ⟨hv, hp⟩ := Decode.text_eq_ok.mp hs
    obtain ⟨h0, rfl⟩ := Decode.paddedString_eq_ok.mp hp
    refine ⟨_, rfl, h3, fun hm => Encode.paddedString_eq_ok.mpr ⟨h0, hv, ?_, rfl⟩⟩
    simp only [List.length_append] at hm
    omega
  · obtain ⟨⟨d, r'⟩, hd, he⟩ := Except.map_eq_ok.mp h
    simp only [Prod.mk.injEq] at he
    obtain ⟨rfl, rfl⟩ := he
    obtain ⟨w, hw, rfl⟩ := Decode.blob_eq_ok.mp hd
    refine ⟨_, rfl, h4, fun hm => Encode.blob_eq_ok.mpr ⟨?_, ?_⟩⟩
    · simp only [List.length_append, Bytes.ofWord32_length, Slice.toList_ofList] at hm ⊢
      omega
    · rw [Slice.toList_ofList, ← hw, Nat.toUInt32_eq, UInt32.ofNat_toNat]

theorem payloads_of_arguments {stop i : Nat} {tags : List UInt8} {bs r : Bytes}
    {args : List (Option Argument)} (h : Decode.arguments stop i tags bs = .ok (args, r)) :
    ∃ (as : List Argument) (body : Bytes), args = as.map some ∧
      tags = as.map Argument.tagByte ∧ bs = body ++ r ∧
      (body.length ≤ Encode.maxSize → Encode.payloads i args = .ok body) := by
  induction tags generalizing i bs args with
  | nil =>
    simp only [Decode.arguments, Except.ok.injEq, Prod.mk.injEq] at h
    obtain ⟨rfl, rfl⟩ := h
    exact ⟨[], [], rfl, rfl, rfl, fun _ => rfl⟩
  | cons t ts ih =>
    obtain ⟨a, rest, as', ha, hr, rfl⟩ := Decode.arguments_cons_eq_ok.mp h
    obtain ⟨pl, rfl, rfl, hpl⟩ := payload_of_argument ha
    obtain ⟨as, body, rfl, rfl, rfl, hbody⟩ := ih hr
    refine ⟨a :: as, pl ++ body, rfl, rfl, by rw [List.append_assoc], fun hm => ?_⟩
    simp only [List.length_append] at hm
    exact Encode.payloads_cons_eq_ok.mpr
      ⟨pl, body, hpl (by omega), hbody (by omega), rfl⟩

/-- A message that the reader accepts and that a size field can hold is written back as the
bytes it was read from. -/
theorem message_of_decode {stop : Nat} {bs : Bytes} {m : Message}
    (h : Decode.message stop bs = .ok m) (hm : bs.length ≤ Encode.maxSize) :
    Encode.message m = .ok bs := by
  obtain ⟨rest, hA, hT, -⟩ := Decode.message_eq_ok.mp h
  obtain ⟨hv, hA⟩ := Decode.text_eq_ok.mp hA
  obtain ⟨h0, rfl⟩ := Decode.paddedString_eq_ok.mp hA
  obtain ⟨letters, rest', hT, hargs⟩ := Decode.typedArguments_eq_ok.mp hT
  obtain ⟨t0, rfl⟩ := Decode.paddedString_eq_ok.mp hT
  obtain ⟨as, body, has, rfl, rfl, hbody⟩ := payloads_of_arguments hargs
  simp only [List.append_nil, List.length_append] at hm hbody ⊢
  refine Encode.message_eq_ok.mpr ⟨as, _, _, body, has,
    Encode.paddedString_eq_ok.mpr ⟨h0, hv, by omega, rfl⟩,
    Encode.paddedString_eq_ok.mpr ⟨t0, Utf8.valid_tags as, by omega, rfl⟩, hbody (by omega),
    ?_⟩
  simp only [List.append_assoc]

/-! ## Packets -/

/-- What the bundle reader accepts is a bundle. -/
theorem Decode.bundle_eq_ok {limit depth stop : Nat} {bs : Bytes} {p : Packet}
    (h : Decode.bundle limit depth stop bs = .ok p) : ∃ tt els, p = .bundle tt els := by
  rw [Decode.bundle.eq_1] at h
  split_ifs at h
  split at h
  · obtain ⟨els, -, rfl⟩ := Except.map_eq_ok.mp h
    exact ⟨_, els, rfl⟩
  · cases h

/-- Whatever the reader accepts from a region that a size field can hold, at nesting level
`depth` of at least one, the writer writes back byte for byte from the enclosing level. -/
theorem packet_of_decode (limit : Nat) :
    (∀ depth stop bs p, Decode.packet limit depth stop bs = .ok p →
      bs.length ≤ Encode.maxSize → 0 < depth → Encode.packet limit (depth - 1) p = .ok bs) ∧
    (∀ depth stop bs p, Decode.bundle limit depth stop bs = .ok p →
      bs.length ≤ Encode.maxSize → 0 < depth → Encode.packet limit (depth - 1) p = .ok bs) ∧
    (∀ depth stop i bs ps, Decode.elements limit depth stop i bs = .ok ps →
      bs.length ≤ Encode.maxSize → 0 < depth →
        Encode.elements limit depth i ps = .ok bs) := by
  refine Decode.packet.mutual_induct limit
    (fun depth stop bs => ∀ p, Decode.packet limit depth stop bs = .ok p →
      bs.length ≤ Encode.maxSize → 0 < depth → Encode.packet limit (depth - 1) p = .ok bs)
    (fun depth stop bs => ∀ p, Decode.bundle limit depth stop bs = .ok p →
      bs.length ≤ Encode.maxSize → 0 < depth → Encode.packet limit (depth - 1) p = .ok bs)
    (fun depth stop i bs => ∀ ps, Decode.elements limit depth stop i bs = .ok ps →
      bs.length ≤ Encode.maxSize → 0 < depth → Encode.elements limit depth i ps = .ok bs)
    ?_ ?_ ?_ ?_ ?_ ?_ ?_ ?_ ?_ ?_ ?_ ?_
  -- a region that starts with the marker is a bundle
  · intro depth stop bs hm ih p h
    rw [Decode.packet.eq_1, if_pos hm] at h
    exact ih p h
  -- any other region is a message
  · intro depth stop bs hm p h hl _
    rw [Decode.packet.eq_1, if_neg hm] at h
    obtain ⟨m, hmsg, rfl⟩ := Except.map_eq_ok.mp h
    exact message_of_decode hmsg hl
  -- a bundle beyond the limit, too short for its marker, or with a wrong one, is refused
  · intro depth stop bs hd p h
    simp [Decode.bundle.eq_1, hd] at h
  · intro depth stop bs hd hs p h
    simp [Decode.bundle.eq_1, hd, hs] at h
  · intro depth stop bs hd hs hne p h
    rw [Decode.bundle.eq_1, if_neg hd, if_neg hs, if_pos hne] at h
    cases h
  -- a bundle is the marker, its time tag and its element area
  · intro depth stop bs hd hs hmk a b c d e f g k rest hdrop ih p h hl hpos
    have hbs := Decode.eq_marker_append hmk hdrop
    rw [hbs, Decode.bundle_marker, if_neg hd] at h
    obtain ⟨els, hels, rfl⟩ := Except.map_eq_ok.mp h
    have hrest : rest.length ≤ Encode.maxSize := by
      rw [hbs] at hl
      simp only [List.length_append] at hl
      omega
    rw [hbs]
    exact Encode.packet_bundle_eq_ok.mpr
      ⟨by omega, rest, by rw [Nat.sub_add_cancel hpos]; exact ih els hels hrest hpos, rfl⟩
  · intro depth stop bs hd hs hmk hne p h
    rw [Decode.bundle.eq_1, if_neg hd, if_neg hs, if_neg hmk] at h
    split at h
    · rename_i a b c d e f g k rest hdrop
      exact (hne a b c d e f g k rest hdrop).elim
    · cases h
  -- the empty element area
  · intro depth stop i ps h _ _
    rw [Decode.elements.eq_1, Except.ok.injEq] at h
    subst h
    rfl
  -- a frame longer than what is left is refused
  · intro depth stop i a b c d rest size hlt ps h
    rw [Decode.elements.eq_2, if_pos hlt] at h
    cases h
  -- an element that cannot be read
  · intro depth stop i a b c d rest size hge e he _ ps h
    rw [Decode.elements.eq_2, if_neg hge, he] at h
    cases h
  -- an element is its size, its frame, and the elements after it
  · intro depth stop i a b c d rest size hge p hp ih ihs ps h hl hpos
    rw [Decode.elements.eq_2, if_neg hge, hp] at h
    obtain ⟨ps', hps', rfl⟩ := Except.map_eq_ok.mp h
    simp only [List.length_cons] at hl
    have hframe : (rest.take (Bytes.word32 a b c d).toNat).length = (Bytes.word32 a b c d).toNat :=
      List.length_take_of_le (by omega)
    have hq := ih p hp (by rw [hframe]; omega) (by omega)
    rw [Nat.add_sub_cancel] at hq
    refine Encode.elements_cons_eq_ok.mpr ⟨?_, _, _, hq, by rw [hframe]; omega,
      ihs ps' hps' (by simp only [List.length_drop]; omega) hpos, ?_⟩
    · rintro rfl
      simp [Encode.packet] at hq
    · rw [hframe, Nat.toUInt32_eq, UInt32.ofNat_toNat, Bytes.ofWord32_word32, List.append_assoc,
        List.take_append_drop]
      rfl
  -- one to three bytes cannot hold a size
  · intro depth stop i more _ _ ps h
    rw [Decode.elements.eq_3 _ _ _ _ _ ‹_› ‹_›] at h
    cases h

end Wire

/-- The wire form is canonical: bytes that a size field can hold and that the reader accepts as a
packet, as a message on its own or as a bundle on its own, are exactly what the writer writes for
what was read, under any nesting limit. -/
theorem encode_decode (d : Bytes) (hd : d.length ≤ Wire.Encode.maxSize) :
    (∀ (c : Codec) (p : Packet), c.decode d = .ok p → c.encode p = .ok d) ∧
    (∀ m : Message, Message.ofBytes d = .ok m → m.toBytes = .ok d) ∧
    (∀ p : Packet, Packet.bundleOfBytes d = .ok p → p.toBytes = .ok d) := by
  refine ⟨fun c p h => ?_, fun m h => Wire.message_of_decode h hd, fun p h => ?_⟩
  · exact (Wire.packet_of_decode c.maxDepth).1 1 d.length d p h hd Nat.one_pos
  · have he := (Wire.packet_of_decode Codec.default.maxDepth).2.1 1 d.length d p h hd Nat.one_pos
    -- a bundle that was read is a bundle, so it is written under the default codec
    obtain ⟨tt, els, rfl⟩ := Wire.Decode.bundle_eq_ok h
    show (Codec.default.encode _).mapError Failure.ofError = .ok d
    rw [show Codec.default.encode _ = .ok d from he]
    rfl

/-- Bytes of the bundle holding `/a ,i 1`, once read, are written back as they were. -/
theorem encode_decode_sample :
    (bundleMarker ++ [0, 0, 0, 0, 0, 0, 0, 1, 0, 0, 0, 12,
      0x2F, 0x61, 0, 0, 0x2C, 0x69, 0, 0, 0, 0, 0, 1]).length ≤ Wire.Encode.maxSize ∧
    ∀ (c : Codec) (p : Packet), c.decode (bundleMarker ++ [0, 0, 0, 0, 0, 0, 0, 1, 0, 0, 0, 12,
        0x2F, 0x61, 0, 0, 0x2C, 0x69, 0, 0, 0, 0, 0, 1]) = .ok p →
      c.encode p = .ok (bundleMarker ++ [0, 0, 0, 0, 0, 0, 0, 1, 0, 0, 0, 12,
        0x2F, 0x61, 0, 0, 0x2C, 0x69, 0, 0, 0, 0, 0, 1]) :=
  ⟨by decide, (encode_decode _ (by decide)).1⟩

/-! ## Strings and blobs on their own -/

/-- The padded form of a NUL-free string (the string, its NUL and the fewest NULs that reach a
multiple of four) reads back as the string whatever follows, and whatever the string reader
accepts is such a form; the writer writes that form exactly for the strings it accepts, NUL-free
valid UTF-8 of at most `2^31 - 1` bytes. A blob that the writer accepts reads back from what it
wrote, whatever follows; what the blob reader consumes is the blob's length word, bytes and
padding, the form that the writer gives a blob of at most `2^31 - 1` bytes. -/
theorem string_blob_forms_read_back (stop : Nat) (field : String) :
    (∀ s t : Bytes, 0 ∉ s →
      Wire.Decode.paddedString stop field
        (s ++ Bytes.zeros (1 + Bytes.padding (s.length + 1)) ++ t) = .ok (s, t)) ∧
    (∀ u s r : Bytes, Wire.Decode.paddedString stop field u = .ok (s, r) →
      0 ∉ s ∧ u = s ++ Bytes.zeros (1 + Bytes.padding (s.length + 1)) ++ r) ∧
    (∀ s e : Bytes, Wire.Encode.paddedString s = .ok e ↔
      0 ∉ s ∧ Utf8.valid s ∧ s.length ≤ Wire.Encode.maxSize ∧
        e = s ++ Bytes.zeros (1 + Bytes.padding (s.length + 1))) ∧
    (∀ x e t : Bytes, Wire.Encode.blob x = .ok e → Wire.Decode.blob stop (e ++ t) = .ok (x, t)) ∧
    (∀ u d r : Bytes, Wire.Decode.blob stop u = .ok (d, r) →
      u = Bytes.ofWord32 d.length.toUInt32 ++ d ++ Bytes.zeros (Bytes.padding d.length) ++ r ∧
      (d.length ≤ Wire.Encode.maxSize → Wire.Encode.blob d =
        .ok (Bytes.ofWord32 d.length.toUInt32 ++ d ++ Bytes.zeros (Bytes.padding d.length)))) :=
  ⟨fun _ _ hs => Wire.Decode.paddedString_eq_ok.mpr ⟨hs, rfl⟩,
    fun _ _ _ h => Wire.Decode.paddedString_eq_ok.mp h,
    fun _ _ => Wire.Encode.paddedString_eq_ok,
    fun _ _ t h => Wire.Decode.blob_of_encode t h,
    fun _ _ _ h => ⟨Wire.Decode.blob_consumed h, fun hm => Wire.Encode.blob_eq_ok.mpr ⟨hm, rfl⟩⟩⟩

/-- The address `/a` in its padded form, followed by the comma of a type tag string, reads back
as `/a` with the comma left over. -/
theorem string_blob_forms_read_back_sample :
    0 ∉ ([0x2F, 0x61] : Bytes) ∧
      Wire.Decode.paddedString 8 "address"
        ([0x2F, 0x61] ++ Bytes.zeros (1 + Bytes.padding (([0x2F, 0x61] : Bytes).length + 1)) ++
          [0x2C]) = .ok ([0x2F, 0x61], [0x2C]) :=
  ⟨by decide, (string_blob_forms_read_back 8 "address").1 _ _ (by decide)⟩

/-- The string reader accepts a NUL-free string that the writer refuses: the byte `0xFF` is no
UTF-8, and a type tag string is read with no UTF-8 check. -/
theorem paddedString_accepts_unwritable :
    Wire.Decode.paddedString 4 "type tag string" [0xFF, 0, 0, 0] = .ok ([0xFF], []) ∧
      ¬ ∃ e, Wire.Encode.paddedString [0xFF] = .ok e := by
  refine ⟨by decide, ?_⟩
  rintro ⟨e, he⟩
  obtain ⟨-, hvalid, -⟩ := Wire.Encode.paddedString_eq_ok.mp he
  have hstray : Utf8.valid [0xFF] = false := by decide +kernel
  rw [hstray] at hvalid
  cases hvalid

end SoundControl
