import SoundControl.Proofs.Wire.Equations
import Mathlib.Data.List.Basic

/-! # How reading fails

Every failure of reading is a decoding failure of one of eight kinds, at an offset within the
bytes, with a path no longer than the nesting limit and an argument index below the message's
tag count (`decode_failure_wellFormed`). -/

namespace SoundControl

theorem Except.bind_eq_error {ε α β : Type} {x : Except ε α} {f : α → Except ε β}
    {e : ε} :
    x >>= f = .error e ↔ x = .error e ∨ ∃ a, x = .ok a ∧ f a = .error e := by
  cases x <;> simp [bind, Except.bind]

theorem Except.map_eq_error {ε α β : Type} {x : Except ε α} {f : α → β} {e : ε} :
    x.map f = .error e ↔ x = .error e := by
  cases x <;> simp [Except.map]

/-! ## Regions of the input -/

namespace Bytes

/-- The size-prefixed frames of a bundle's element area, as far as they are complete. -/
def frames (bs : Bytes) : List Bytes :=
  match bs with
  | a :: b :: c :: d :: rest =>
    if (word32 a b c d).toNat ≤ rest.length then
      rest.take (word32 a b c d).toNat :: frames (rest.drop (word32 a b c d).toNat)
    else []
  | _ => []
termination_by bs.length
decreasing_by simp only [List.length_drop, List.length_cons]; omega

theorem frames_cons {a b c d : UInt8} {rest : Bytes} (h : (word32 a b c d).toNat ≤ rest.length) :
    frames (a :: b :: c :: d :: rest) =
      rest.take (word32 a b c d).toNat :: frames (rest.drop (word32 a b c d).toNat) := by
  rw [frames, if_pos h]

/-- The region of the packet reached from the packet region `bs` by following element indexes:
the elements of a bundle are the frames after its marker and time tag. -/
def regionAt (bs : Bytes) : List Nat → Option Bytes
  | [] => some bs
  | i :: path => (frames (bs.drop 16))[i]?.bind fun r => r.regionAt path

/-- The number of type tags of the message whose wire form is `bs`: the letters after the comma
of its second string, which starts after the first string, its NUL and its padding. -/
def tagCount (bs : Bytes) : Nat :=
  ((bs.drop (bs.idxOf 0 + 1 + padding (bs.idxOf 0 + 1))).takeWhile (· != 0)).length - 1

end Bytes

namespace Wire.Decode

/-- The kinds of failure that reading reports. -/
def faults : List Fault :=
  [.unexpectedEnd, .malformedPadding, .invalidTypeTags, .unsupportedType, .invalidBundleMarker,
    .depthExceeded, .trailingData, .invalidString]

/-- A failure of reading a region that ends at offset `stop`: a failure of decoding, of one of the
kinds that reading reports, at an offset within the region. -/
structure ReadFailure (stop : Nat) (e : Error) : Prop where
  stage : e.stage = .decode
  fault : e.fault ∈ faults
  offset : ∃ o, e.offset = some o ∧ o ≤ stop

/-- A failure of reading one field, which names no element and no argument. -/
structure FieldFailure (stop : Nat) (e : Error) : Prop extends ReadFailure stop e where
  path : e.path = []
  argument : e.argument = none

theorem ReadFailure.mono {stop stop' : Nat} {e : Error} (h : ReadFailure stop e)
    (hs : stop ≤ stop') : ReadFailure stop' e := by
  obtain ⟨o, ho, hle⟩ := h.offset
  exact ⟨h.stage, h.fault, o, ho, by omega⟩

theorem ReadFailure.inElement {stop : Nat} {e : Error} (h : ReadFailure stop e) (i : Nat) :
    ReadFailure stop (e.inElement i) :=
  ⟨h.stage, h.fault, h.offset⟩

theorem decodeError_failure {o stop : Nat} {fault : Fault} {detail : String} (hf : fault ∈ faults)
    (ho : o ≤ stop) : FieldFailure stop (decodeError o fault detail) :=
  ⟨⟨rfl, hf, o, rfl, ho⟩, rfl, rfl⟩

/-- A failure at a byte `n` bytes before the end of the region is within the region. -/
theorem decodeError_sub_failure {n stop : Nat} {fault : Fault} {detail : String}
    (hf : fault ∈ faults) : FieldFailure stop (decodeError (stop - n) fault detail) :=
  decodeError_failure hf (Nat.sub_le _ _)

theorem shortError_failure (stop n : Nat) (field : String) (bs : Bytes) :
    FieldFailure stop (shortError stop n field bs) :=
  decodeError_sub_failure (by simp [faults])

theorem FieldFailure.noArgument {stop : Nat} {e : Error} (h : FieldFailure stop e)
    {P : Nat → Prop} : ∀ k, e.argument = some k → P k := by
  intro k hk
  rw [h.argument] at hk
  cases hk

theorem firstNonZero?_lt {xs : Bytes} {i : Nat} (h : firstNonZero? xs = some i) : i < xs.length :=
  (List.findIdx?_eq_some_iff_getElem.mp h).1

/-! ## Fields -/

section Fields

variable {stop : Nat} {field : String} {bs : Bytes} {e : Error}

theorem take_failure {n : Nat} (h : take stop n field bs = .error e) : FieldFailure stop e := by
  unfold take at h
  split at h
  · cases h
  · cases h
    exact shortError_failure ..

theorem word32_failure (h : word32 stop field bs = .error e) : FieldFailure stop e := by
  unfold word32 at h
  split at h
  · cases h
  · cases h
    exact shortError_failure ..

/-- A string fails at its start, or at a non-zero padding byte, which lies within the bytes. -/
theorem paddedString_failure (hb : bs.length ≤ stop) (h : paddedString stop field bs = .error e) :
    FieldFailure stop e := by
  cases hpos : bs.idxOf? 0 with
  | none =>
    simp only [paddedString, hpos, Except.error.injEq] at h
    subst h
    exact decodeError_sub_failure (by simp [faults])
  | some pos =>
    obtain ⟨s, t, rfl, hs, rfl⟩ := idxOf?_zero_eq_some.mp hpos
    rw [paddedString_nul hs] at h
    split at h
    · cases h
      exact decodeError_sub_failure (by simp [faults])
    · split at h
      · rename_i i hi
        cases h
        have hlt := firstNonZero?_lt hi
        simp only [List.length_append, List.length_cons, List.length_take] at hb hlt ⊢
        exact decodeError_failure (by simp [faults]) (by omega)
      · cases h

theorem text_failure (hb : bs.length ≤ stop) (h : text stop field bs = .error e) :
    FieldFailure stop e := by
  rcases Except.bind_eq_error.mp h with hs | ⟨⟨s, rest⟩, -, hk⟩
  · exact paddedString_failure hb hs
  · dsimp only at hk
    split at hk
    · cases hk
    · cases hk
      exact decodeError_sub_failure (by simp [faults])

/-- Padding fails at a non-zero byte within the bytes. -/
theorem skipPadding_failure {n : Nat} (hb : bs.length ≤ stop)
    (h : skipPadding stop n field bs = .error e) : FieldFailure stop e := by
  rcases Except.bind_eq_error.mp h with ht | ⟨⟨pad, rest⟩, ht, hk⟩
  · exact take_failure ht
  · obtain ⟨-, rfl⟩ := take_eq_ok.mp ht
    dsimp only at hk
    split at hk
    · rename_i i hi
      cases hk
      have hlt := firstNonZero?_lt hi
      simp only [List.length_append] at hb ⊢
      exact decodeError_failure (by simp [faults]) (by omega)
    · cases hk

theorem blob_failure (hb : bs.length ≤ stop) (h : blob stop bs = .error e) :
    FieldFailure stop e := by
  rcases Except.bind_eq_error.mp h with hw | ⟨⟨len, rest⟩, hw, hk⟩
  · exact word32_failure hw
  · obtain rfl := word32_eq_ok.mp hw
    dsimp only at hk
    split at hk
    · cases hk
      exact decodeError_sub_failure (by simp [faults])
    · rcases Except.bind_eq_error.mp hk with hp | ⟨after, -, hk⟩
      · refine skipPadding_failure ?_ hp
        simp only [List.length_append, Bytes.ofWord32_length] at hb
        simp only [List.length_drop]
        omega
      · cases hk

theorem argument_failure {tag : UInt8} (hb : bs.length ≤ stop)
    (h : argument stop tag bs = .error e) : FieldFailure stop e := by
  unfold argument at h
  split_ifs at h
  · exact word32_failure (Except.map_eq_error.mp h)
  · exact word32_failure (Except.map_eq_error.mp h)
  · exact text_failure hb (Except.map_eq_error.mp h)
  · exact blob_failure hb (Except.map_eq_error.mp h)
  · cases h
    exact decodeError_sub_failure (by simp [faults])

/-! ## Messages -/

theorem word32_rest_le {w : UInt32} {r : Bytes} (h : word32 stop field bs = .ok (w, r)) :
    r.length ≤ bs.length := by
  rw [word32_eq_ok.mp h]
  simp

theorem paddedString_rest_le {s r : Bytes} (h : paddedString stop field bs = .ok (s, r)) :
    r.length ≤ bs.length := by
  obtain ⟨-, rfl⟩ := paddedString_eq_ok.mp h
  simp only [List.length_append]
  omega

theorem text_rest_le {s r : Bytes} (h : text stop field bs = .ok (s, r)) : r.length ≤ bs.length :=
  paddedString_rest_le (text_eq_ok.mp h).2

theorem argument_rest_le {tag : UInt8} {a : Argument} {r : Bytes}
    (h : argument stop tag bs = .ok (a, r)) : r.length ≤ bs.length := by
  unfold argument at h
  split_ifs at h
  · obtain ⟨⟨w, r'⟩, hw, he⟩ := Except.map_eq_ok.mp h
    cases he
    exact word32_rest_le hw
  · obtain ⟨⟨w, r'⟩, hw, he⟩ := Except.map_eq_ok.mp h
    cases he
    exact word32_rest_le hw
  · obtain ⟨⟨s, r'⟩, hs, he⟩ := Except.map_eq_ok.mp h
    cases he
    exact text_rest_le hs
  · obtain ⟨⟨d, r'⟩, hd, he⟩ := Except.map_eq_ok.mp h
    cases he
    obtain ⟨w, -, rfl⟩ := blob_eq_ok.mp hd
    simp only [List.length_append]
    omega

/-- Reading payloads fails at one of them, and names its index. -/
theorem arguments_failure {i : Nat} {tags : List UInt8} (hb : bs.length ≤ stop)
    (h : arguments stop i tags bs = .error e) :
    ReadFailure stop e ∧ e.path = [] ∧ ∃ k, e.argument = some k ∧ k < i + tags.length := by
  induction tags generalizing i bs with
  | nil => cases h
  | cons t ts ih =>
    unfold arguments at h
    cases ha : argument stop t bs with
    | error e' =>
      rw [ha] at h
      cases h
      have hf := argument_failure hb ha
      -- a payload's failure names no argument, so it is marked with the index of its own
      have he : e'.atArgument i = { e' with argument := some i } := by
        simp [Error.atArgument, hf.argument]
      rw [he]
      exact ⟨⟨hf.stage, hf.fault, hf.offset⟩, hf.path, i, rfl, by simp⟩
    | ok r =>
      obtain ⟨a, rest⟩ := r
      rw [ha] at h
      obtain ⟨hr, hp, k, hk, hlt⟩ :=
        ih ((argument_rest_le ha).trans hb) (Except.map_eq_error.mp h)
      exact ⟨hr, hp, k, hk, by simp only [List.length_cons]; omega⟩

/-- Reading the type tag string and the payloads fails with the index of an argument only among
the letters after the comma. -/
theorem typedArguments_failure (hb : bs.length ≤ stop) (h : typedArguments stop bs = .error e) :
    ReadFailure stop e ∧ e.path = [] ∧ ∀ k, e.argument = some k → ∃ letters rest,
      paddedString stop "type tag string" bs = .ok (0x2C :: letters, rest) ∧
        k < letters.length := by
  dsimp only [typedArguments] at h
  split at h
  · rename_i e' hs
    cases h
    have hf := paddedString_failure hb hs
    -- a bad padding byte in the type tag string is reported as a bad type tag string
    split
    · exact ⟨⟨hf.stage, by simp [faults], hf.offset⟩, hf.path, hf.noArgument⟩
    · exact ⟨hf.toReadFailure, hf.path, hf.noArgument⟩
  · rename_i tags rest hs
    split at h
    · rename_i letters
      obtain ⟨hr, hp, k, hk, hlt⟩ := arguments_failure ((paddedString_rest_le hs).trans hb) h
      refine ⟨hr, hp, fun k' hk' => ⟨letters, rest, hs, ?_⟩⟩
      rw [hk, Option.some.injEq] at hk'
      omega
    · cases h
      have hf : FieldFailure stop (decodeError (stop - bs.length) .invalidTypeTags
          (Quoted.quote tags ++ " does not start with ','")) :=
        decodeError_sub_failure (by simp [faults])
      exact ⟨hf.toReadFailure, hf.path, hf.noArgument⟩

/-- The letters after the comma of a type tag string read after an address are those that
`Bytes.tagCount` counts. -/
theorem tagCount_of_read {address rest letters rest' : Bytes}
    (ht : text stop "address" bs = .ok (address, rest))
    (hs : paddedString stop "type tag string" rest = .ok (0x2C :: letters, rest')) :
    bs.tagCount = letters.length := by
  obtain ⟨h0, rfl⟩ := paddedString_eq_ok.mp (text_eq_ok.mp ht).2
  obtain ⟨t0, rfl⟩ := paddedString_eq_ok.mp hs
  have hz : ∀ n, Bytes.zeros (1 + n) = 0 :: Bytes.zeros n := by
    intro n
    rw [Bytes.zeros, Nat.add_comm, List.replicate_succ]
    rfl
  have hidx : (address ++ Bytes.zeros (1 + Bytes.padding (address.length + 1)) ++
      ((0x2C :: letters) ++ Bytes.zeros (1 + Bytes.padding ((0x2C :: letters).length + 1)) ++
        rest')).idxOf 0 = address.length := by
    rw [List.append_assoc, List.idxOf_append_of_notMem h0, hz, List.cons_append,
      List.idxOf_cons_self, Nat.add_zero]
  have hletters : ∀ x ∈ 0x2C :: letters, (x != 0) = true := by
    intro x hx
    rw [bne_iff_ne]
    rintro rfl
    exact t0 hx
  have hlen : (address ++ Bytes.zeros (1 + Bytes.padding (address.length + 1))).length =
      address.length + 1 + Bytes.padding (address.length + 1) := by
    simp only [List.length_append, Bytes.zeros_length]
    omega
  rw [Bytes.tagCount, hidx, List.drop_left' hlen, List.append_assoc,
    List.takeWhile_append_of_pos hletters, hz]
  simp

/-- A failure of reading a message region `bs`: a read failure within the region, outside any
element, whose argument, if it names one, is smaller than the number of type tags. -/
structure MessageFailure (stop : Nat) (bs : Bytes) (e : Error) : Prop
    extends ReadFailure stop e where
  path : e.path = []
  argument_lt : ∀ k, e.argument = some k → k < bs.tagCount

theorem FieldFailure.toMessageFailure (h : FieldFailure stop e) : MessageFailure stop bs e :=
  ⟨h.toReadFailure, h.path, h.noArgument⟩

theorem message_failure (hb : bs.length ≤ stop) (h : message stop bs = .error e) :
    MessageFailure stop bs e := by
  rcases Except.bind_eq_error.mp h with ht | ⟨⟨address, rest⟩, ht, hk⟩
  · exact (text_failure hb ht).toMessageFailure
  · dsimp only at hk
    rcases Except.bind_eq_error.mp hk with hta | ⟨⟨args, rest'⟩, -, hk⟩
    · obtain ⟨hf, hp, harg⟩ := typedArguments_failure ((text_rest_le ht).trans hb) hta
      refine ⟨hf, hp, fun k hk => ?_⟩
      obtain ⟨letters, rest', hs, hlt⟩ := harg k hk
      rw [tagCount_of_read ht hs]
      exact hlt
    · dsimp only at hk
      split at hk
      · cases hk
      · cases hk
        exact (decodeError_sub_failure (by simp [faults])).toMessageFailure

end Fields

/-! ## Packets -/

/-- A failure of reading the packet region `bs` at nesting level `depth` under the limit `limit`:
a read failure within the region whose path is no longer than the levels left, and whose argument,
if it names one, is smaller than the number of type tags of the message at its path. -/
structure PacketFailure (limit depth stop : Nat) (bs : Bytes) (e : Error) : Prop
    extends ReadFailure stop e where
  path_length : e.path.length ≤ limit + 1 - depth
  argument_lt : ∀ k, e.argument = some k → ∃ r, bs.regionAt e.path = some r ∧ k < r.tagCount

/-- A failure of reading the element area `bs` of a bundle at level `depth`, whose first element
has index `i`: a read failure within the area, in one of its elements. -/
structure ElementsFailure (limit depth stop i : Nat) (bs : Bytes) (e : Error) : Prop
    extends ReadFailure stop e where
  path_length : e.path.length ≤ 1 + (limit - depth)
  argument_lt : ∀ k, e.argument = some k → ∃ j path r, e.path = (i + j) :: path ∧
    (Bytes.frames bs)[j]?.bind (fun fr => fr.regionAt path) = some r ∧ k < r.tagCount

section Packets

variable {limit depth stop : Nat} {bs : Bytes} {e : Error}

theorem FieldFailure.toPacketFailure (h : FieldFailure stop e) :
    PacketFailure limit depth stop bs e :=
  ⟨h.toReadFailure, by simp [h.path], h.noArgument⟩

theorem MessageFailure.toPacketFailure (h : MessageFailure stop bs e) :
    PacketFailure limit depth stop bs e :=
  ⟨h.toReadFailure, by simp [h.path],
    fun k hk => ⟨bs, by rw [h.path]; rfl, h.argument_lt k hk⟩⟩

theorem FieldFailure.toElementsFailure {i : Nat} (h : FieldFailure stop e) :
    ElementsFailure limit depth stop i bs (e.inElement i) :=
  ⟨h.toReadFailure.inElement i, by simp [Error.inElement, h.path], h.noArgument⟩

/-- The failure of an element area is one of the bundle whose elements it holds. -/
theorem ElementsFailure.toBundle {body : Bytes} (h : ElementsFailure limit depth stop 0 body e)
    (hd : depth ≤ limit) (hbody : bs.drop 16 = body) : PacketFailure limit depth stop bs e := by
  refine ⟨h.toReadFailure, by have := h.path_length; omega, fun k hk => ?_⟩
  obtain ⟨j, path, r, hpath, hr, hlt⟩ := h.argument_lt k hk
  refine ⟨r, ?_, hlt⟩
  rw [hpath, Nat.zero_add, Bytes.regionAt, hbody]
  exact hr

/-- A failure inside a frame is one of the element area, in the frame's element. -/
theorem PacketFailure.inFrame {i : Nat} {b0 b1 b2 b3 : UInt8} {rest : Bytes}
    (hge : (Bytes.word32 b0 b1 b2 b3).toNat ≤ rest.length) (hb : rest.length ≤ stop)
    (h : PacketFailure limit (depth + 1) (stop - rest.length + (Bytes.word32 b0 b1 b2 b3).toNat)
      (rest.take (Bytes.word32 b0 b1 b2 b3).toNat) e) :
    ElementsFailure limit depth stop i (b0 :: b1 :: b2 :: b3 :: rest) (e.inElement i) := by
  refine ⟨(h.toReadFailure.mono (by omega)).inElement i, ?_, fun k hk => ?_⟩
  · have := h.path_length
    simp only [Error.inElement, List.length_cons]
    omega
  · obtain ⟨r, hr, hlt⟩ := h.argument_lt k hk
    refine ⟨0, e.path, r, rfl, ?_, hlt⟩
    rw [Bytes.frames_cons hge]
    exact hr

/-- A failure after the first frame is one of the element area, in a later element. -/
theorem ElementsFailure.cons {i : Nat} {b0 b1 b2 b3 : UInt8} {rest : Bytes}
    (hge : (Bytes.word32 b0 b1 b2 b3).toNat ≤ rest.length)
    (h : ElementsFailure limit depth stop (i + 1) (rest.drop (Bytes.word32 b0 b1 b2 b3).toNat) e) :
    ElementsFailure limit depth stop i (b0 :: b1 :: b2 :: b3 :: rest) e := by
  refine ⟨h.toReadFailure, h.path_length, fun k hk => ?_⟩
  obtain ⟨j, path, r, hpath, hr, hlt⟩ := h.argument_lt k hk
  refine ⟨j + 1, path, r, by rw [hpath, Nat.add_right_comm, Nat.add_assoc], ?_, hlt⟩
  rw [Bytes.frames_cons hge]
  exact hr

end Packets

/-- Reading a packet region, a bundle region or an element area, with no more bytes left than the
offset where the region ends, fails only in the ways that `PacketFailure` and `ElementsFailure`
allow. -/
theorem packet_failure (limit : Nat) :
    (∀ depth stop bs e, bs.length ≤ stop → packet limit depth stop bs = .error e →
      PacketFailure limit depth stop bs e) ∧
    (∀ depth stop bs e, bs.length ≤ stop → bundle limit depth stop bs = .error e →
      PacketFailure limit depth stop bs e) ∧
    (∀ depth stop i bs e, bs.length ≤ stop → elements limit depth stop i bs = .error e →
      ElementsFailure limit depth stop i bs e) := by
  refine packet.mutual_induct limit
    (fun depth stop bs => ∀ e, bs.length ≤ stop → packet limit depth stop bs = .error e →
      PacketFailure limit depth stop bs e)
    (fun depth stop bs => ∀ e, bs.length ≤ stop → bundle limit depth stop bs = .error e →
      PacketFailure limit depth stop bs e)
    (fun depth stop i bs => ∀ e, bs.length ≤ stop →
      elements limit depth stop i bs = .error e → ElementsFailure limit depth stop i bs e)
    ?_ ?_ ?_ ?_ ?_ ?_ ?_ ?_ ?_ ?_ ?_ ?_
  -- a region that starts with the marker is read as a bundle, any other as a message
  · intro depth stop bs hm ih e hb h
    rw [packet.eq_1, if_pos hm] at h
    exact ih e hb h
  · intro depth stop bs hm e hb h
    rw [packet.eq_1, if_neg hm] at h
    exact (message_failure hb (Except.map_eq_error.mp h)).toPacketFailure
  -- the level, the marker's bytes and the marker are checked first
  · intro depth stop bs hd e hb h
    rw [bundle.eq_1, if_pos hd] at h
    cases h
    exact (decodeError_sub_failure (by simp [faults])).toPacketFailure
  · intro depth stop bs hd hs e hb h
    rw [bundle.eq_1, if_neg hd, if_pos hs] at h
    cases h
    exact (shortError_failure ..).toPacketFailure
  · intro depth stop bs hd hs hne e hb h
    rw [bundle.eq_1, if_neg hd, if_neg hs, if_pos hne] at h
    cases h
    exact (decodeError_sub_failure (by simp [faults])).toPacketFailure
  -- then the elements after the time tag, one level deeper
  · intro depth stop bs hd hs hmk b0 b1 b2 b3 b4 b5 b6 b7 rest hdrop ih e hb h
    have hbs := eq_marker_append hmk hdrop
    have hbody : bs.drop 16 = rest := by
      rw [show 16 = 8 + 8 from rfl, ← List.drop_drop, hdrop]
      rfl
    rw [hbs, bundle_marker, if_neg hd] at h
    have hl : rest.length ≤ stop := by
      rw [hbs] at hb
      simp only [List.length_append] at hb
      omega
    exact (ih e hl (Except.map_eq_error.mp h)).toBundle (by omega) hbody
  · intro depth stop bs hd hs hmk hne e hb h
    rw [bundle.eq_1, if_neg hd, if_neg hs, if_neg hmk] at h
    split at h
    · rename_i b0 b1 b2 b3 b4 b5 b6 b7 rest hdrop
      exact (hne b0 b1 b2 b3 b4 b5 b6 b7 rest hdrop).elim
    · cases h
      exact (shortError_failure ..).toPacketFailure
  -- the empty element area is read
  · intro depth stop i e hb h
    rw [elements.eq_1] at h
    cases h
  -- a frame longer than what is left
  · intro depth stop i b0 b1 b2 b3 rest size hlt e hb h
    rw [elements.eq_2, if_pos hlt] at h
    cases h
    exact (decodeError_sub_failure (by simp [faults])).toElementsFailure
  -- a failure inside a frame, which is a region of its own ending within the area
  · intro depth stop i b0 b1 b2 b3 rest size hge e' he ih e hb h
    rw [elements.eq_2, if_neg hge, he] at h
    cases h
    simp only [List.length_cons] at hb
    have hframe : (rest.take size).length ≤ stop - rest.length + size := by
      rw [List.length_take]
      omega
    exact (ih e' hframe he).inFrame (by omega) (by omega)
  -- a failure after a frame
  · intro depth stop i b0 b1 b2 b3 rest size hge p hp ih ihs e hb h
    rw [elements.eq_2, if_neg hge, hp] at h
    simp only [List.length_cons] at hb
    have hl : (rest.drop size).length ≤ stop := by
      rw [List.length_drop]
      omega
    exact (ihs e hl (Except.map_eq_error.mp h)).cons (by omega)
  -- a size field cut short
  · intro depth stop i more hnil hshort e hb h
    rw [elements.eq_3 _ _ _ _ _ hnil hshort] at h
    cases h
    exact (shortError_failure ..).toElementsFailure

end Wire.Decode

/-- Reading any bytes under any nesting limit either gives a packet or fails as a failure of
decoding, of one of the kinds that reading reports, at an offset within the bytes, with an element
path no longer than the limit, and with an argument index, if any, below the number of type tags of
the message at that path. -/
theorem decode_failure_wellFormed (c : Codec) (d : Bytes) (e : Error) (h : c.decode d = .error e) :
    e.stage = .decode ∧ e.fault ∈ Wire.Decode.faults ∧
      (∃ o, e.offset = some o ∧ o ≤ d.length) ∧
      e.path.length ≤ c.maxDepth ∧
      ∀ k, e.argument = some k → ∃ r, d.regionAt e.path = some r ∧ k < r.tagCount := by
  have hf := (Wire.Decode.packet_failure c.maxDepth).1 1 d.length d e le_rfl h
  exact ⟨hf.stage, hf.fault, hf.offset, by simpa using hf.path_length, hf.argument_lt⟩

/-- A bundle whose only element announces nine bytes where none are left fails at the end of the
bytes, in element 0. -/
theorem decode_failure_wellFormed_sample :
    Codec.default.decode (bundleMarker ++ [0, 0, 0, 0, 0, 0, 0, 1, 0, 0, 0, 9]) =
      .error ((Wire.Decode.decodeError 20 .unexpectedEnd
        "element size 9 exceeds remaining 0").inElement 0) ∧
    Stage.decode = .decode ∧ Fault.unexpectedEnd ∈ Wire.Decode.faults ∧
      (∃ o, some 20 = some o ∧
        o ≤ (bundleMarker ++ [0, 0, 0, 0, 0, 0, 0, 1, 0, 0, 0, 9]).length) ∧
      [0].length ≤ Codec.default.maxDepth ∧
      ∀ k, (none : Option Nat) = some k → ∃ r,
        (bundleMarker ++ [0, 0, 0, 0, 0, 0, 0, 1, 0, 0, 0, 9]).regionAt [0] = some r ∧
          k < r.tagCount := by
  have h : Codec.default.decode (bundleMarker ++ [0, 0, 0, 0, 0, 0, 0, 1, 0, 0, 0, 9]) =
      .error ((Wire.Decode.decodeError 20 .unexpectedEnd
        "element size 9 exceeds remaining 0").inElement 0) := by
    rw [Codec.decode, Wire.Decode.packet.eq_1, if_pos (by decide),
      show bundleMarker ++ [0, 0, 0, 0, 0, 0, 0, 1, 0, 0, 0, 9] =
        bundleMarker ++ Bytes.ofWord64 1 ++ (Bytes.ofWord32 9 ++ []) from rfl,
      Wire.Decode.bundle_marker, if_neg (by decide), Wire.Decode.elements_frame, if_pos (by decide)]
    rfl
  exact ⟨h, decode_failure_wellFormed _ _ _ h⟩

end SoundControl
