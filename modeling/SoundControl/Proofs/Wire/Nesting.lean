import SoundControl.Proofs.Wire.Failures
import Mathlib

/-! # Reading a packet inside a bundle

A bundle is read exactly when every element is read on its own under a limit one lower, and
otherwise it fails as its first failing element does, with the offset and path moved to the
bundle (`decode_bundle_frames`). -/

namespace SoundControl

/-- The failure `k` bytes further on. -/
def Error.shift (k : Nat) (e : Error) : Error := { e with offset := e.offset.map (· + k) }

@[simp] theorem Error.shift_inElement (k i : Nat) (e : Error) :
    (e.inElement i).shift k = (e.shift k).inElement i := rfl

theorem Error.shift_atArgument (k i : Nat) (e : Error) :
    (e.atArgument i).shift k = (e.shift k).atArgument i := by
  obtain ⟨stage, fault, detail, offset, path, argument⟩ := e
  cases argument <;> rfl

/-- How a failure of reading a region shows when the region is read `k` bytes further on, one
level deeper and under a limit one higher: moved `k` bytes on and, if it is the depth failure,
naming the higher limit. -/
def Error.Lifted (limit k : Nat) (e e' : Error) : Prop :=
  e' = e.shift k ∨
    e.fault = .depthExceeded ∧ e.detail = "limit " ++ toString limit ∧
      e' = { e.shift k with detail := "limit " ++ toString (limit + 1) }

theorem Error.Lifted.inElement {limit k : Nat} {e e' : Error} (h : e.Lifted limit k e') (i : Nat) :
    (e.inElement i).Lifted limit k (e'.inElement i) := by
  rcases h with rfl | ⟨hf, hd, rfl⟩
  · exact .inl rfl
  · exact .inr ⟨hf, hd, rfl⟩

/-- Two outcomes that agree: the same value, or failures that `R` relates. -/
def Except.Agree {ε α : Type} (R : ε → ε → Prop) : Except ε α → Except ε α → Prop
  | .ok a, .ok b => a = b
  | .error e, .error e' => R e e'
  | _, _ => False

namespace Except.Agree

variable {ε α : Type} {R : ε → ε → Prop} {x y : Except ε α}

theorem map {β : Type} (h : Except.Agree R x y) (f : α → β) :
    Except.Agree R (x.map f) (y.map f) := by
  cases x <;> cases y <;> simp_all [Except.Agree, Except.map]

theorem of_mapError {g : ε → ε} (hg : ∀ e, R e (g e)) : Except.Agree R x (x.mapError g) := by
  cases x
  · exact hg _
  · rfl

theorem error {e e' : ε} (h : R e e') : Except.Agree R (Except.error e : Except ε α) (.error e') :=
  h

theorem eq_ok {a : α} (h : Except.Agree R (.ok a) y) : y = .ok a := by
  cases y
  · exact h.elim
  · exact congrArg _ h.symm

theorem eq_error {e : ε} (h : Except.Agree R (.error e) y) : ∃ e', y = .error e' ∧ R e e' := by
  cases y
  · exact ⟨_, rfl, h⟩
  · exact h.elim

end Except.Agree

namespace Wire.Decode

@[simp] theorem decodeError_shift (o k : Nat) (fault : Fault) (detail : String) :
    (decodeError o fault detail).shift k = decodeError (o + k) fault detail := rfl

/-! ## Fields read further on -/

section Fields

variable {stop k : Nat} {field : String} {bs : Bytes}

theorem shortError_relocate (hb : bs.length ≤ stop) (n : Nat) :
    shortError (stop + k) n field bs = (shortError stop n field bs).shift k := by
  rw [shortError, shortError, decodeError_shift, Nat.sub_add_comm hb]

theorem take_relocate (hb : bs.length ≤ stop) (n : Nat) :
    take (stop + k) n field bs = (take stop n field bs).mapError (Error.shift k) := by
  unfold take
  split
  · rfl
  · rw [shortError_relocate hb]
    rfl

theorem word32_relocate (hb : bs.length ≤ stop) :
    word32 (stop + k) field bs = (word32 stop field bs).mapError (Error.shift k) := by
  unfold word32
  split
  · rfl
  · rw [shortError_relocate hb]
    rfl

/-- A string is read the same way further on; each of its failures moves along. -/
theorem paddedString_relocate (hb : bs.length ≤ stop) :
    paddedString (stop + k) field bs = (paddedString stop field bs).mapError (Error.shift k) := by
  have hstart : stop + k - bs.length = stop - bs.length + k := Nat.sub_add_comm hb
  unfold paddedString
  dsimp only
  rw [hstart]
  cases bs.idxOf? 0 with
  | none => rfl
  | some pos =>
    dsimp only
    split
    · rfl
    · cases firstNonZero? ((bs.take (pos + 1 + Bytes.padding (pos + 1))).drop (pos + 1)) with
      | none => rfl
      | some i =>
        simp only [Except.mapError, decodeError_shift, Except.error.injEq]
        congr 1
        omega

theorem text_relocate (hb : bs.length ≤ stop) :
    text (stop + k) field bs = (text stop field bs).mapError (Error.shift k) := by
  unfold text
  rw [paddedString_relocate hb, Nat.sub_add_comm hb]
  cases paddedString stop field bs with
  | error e => rfl
  | ok v =>
    obtain ⟨s, rest⟩ := v
    simp only [Except.mapError, bind, Except.bind]
    split <;> rfl

theorem skipPadding_relocate (hb : bs.length ≤ stop) (n : Nat) :
    skipPadding (stop + k) n field bs = (skipPadding stop n field bs).mapError (Error.shift k) := by
  unfold skipPadding
  rw [take_relocate hb, Nat.sub_add_comm hb]
  cases take stop (Bytes.padding n) (field ++ " padding") bs with
  | error e => rfl
  | ok v =>
    obtain ⟨pad, rest⟩ := v
    simp only [Except.mapError, bind, Except.bind]
    split
    · simp only [decodeError_shift, Except.error.injEq]
      congr 1
      omega
    · rfl

theorem blob_relocate (hb : bs.length ≤ stop) :
    blob (stop + k) bs = (blob stop bs).mapError (Error.shift k) := by
  unfold blob
  rw [word32_relocate hb]
  cases hw : word32 stop "blob length" bs with
  | error e => rfl
  | ok v =>
    obtain ⟨len, rest⟩ := v
    -- what is left after the length word lies within the region as well
    have hr : rest.length ≤ stop := (word32_rest_le hw).trans hb
    simp only [Except.mapError, bind, Except.bind]
    split
    · rw [Nat.sub_add_comm hr]
      rfl
    · rw [skipPadding_relocate (by simp only [List.length_drop]; omega)]
      cases skipPadding stop len.toNat "blob" (rest.drop len.toNat) <;> rfl

end Fields

theorem Except.map_mapError {ε ε' α β : Type} (f : α → β) (g : ε → ε') (x : Except ε α) :
    (x.mapError g).map f = (x.map f).mapError g := by
  cases x <;> rfl

section Messages

variable {stop k : Nat} {bs : Bytes}

theorem arguments_rest_le {i : Nat} {tags : List UInt8} {args : List (Option Argument)}
    {r : Bytes} (h : arguments stop i tags bs = .ok (args, r)) : r.length ≤ bs.length := by
  induction tags generalizing i bs args with
  | nil =>
    simp only [arguments, Except.ok.injEq, Prod.mk.injEq] at h
    rw [h.2]
  | cons t ts ih =>
    obtain ⟨a, rest, as, ha, hr, -⟩ := arguments_cons_eq_ok.mp h
    exact (ih hr).trans (argument_rest_le ha)

theorem typedArguments_rest_le {args : List (Option Argument)} {r : Bytes}
    (h : typedArguments stop bs = .ok (args, r)) : r.length ≤ bs.length := by
  obtain ⟨letters, rest, hs, hargs⟩ := typedArguments_eq_ok.mp h
  exact (arguments_rest_le hargs).trans (paddedString_rest_le hs)

theorem argument_relocate (hb : bs.length ≤ stop) (tag : UInt8) :
    argument (stop + k) tag bs = (argument stop tag bs).mapError (Error.shift k) := by
  unfold argument
  split_ifs
  · rw [word32_relocate hb, Except.map_mapError]
  · rw [word32_relocate hb, Except.map_mapError]
  · rw [text_relocate hb, Except.map_mapError]
  · rw [blob_relocate hb, Except.map_mapError]
  · rw [Nat.sub_add_comm hb]
    rfl

theorem arguments_relocate (i : Nat) (tags : List UInt8) (hb : bs.length ≤ stop) :
    arguments (stop + k) i tags bs = (arguments stop i tags bs).mapError (Error.shift k) := by
  induction tags generalizing i bs with
  | nil => rfl
  | cons t ts ih =>
    simp only [arguments]
    rw [argument_relocate hb]
    cases ha : argument stop t bs with
    | error e => simp only [Except.mapError, Error.shift_atArgument]
    | ok v =>
      obtain ⟨a, rest⟩ := v
      show (arguments (stop + k) (i + 1) ts rest).map _ =
        ((arguments stop (i + 1) ts rest).map _).mapError _
      rw [ih (i + 1) ((argument_rest_le ha).trans hb), Except.map_mapError]

theorem typedArguments_relocate (hb : bs.length ≤ stop) :
    typedArguments (stop + k) bs = (typedArguments stop bs).mapError (Error.shift k) := by
  unfold typedArguments
  dsimp only
  rw [paddedString_relocate hb, Nat.sub_add_comm hb]
  cases hs : paddedString stop "type tag string" bs with
  | error e =>
    -- a bad padding byte is renamed before and after the move alike
    simp only [Except.mapError, Error.shift]
    split <;> rfl
  | ok v =>
    obtain ⟨tags, rest⟩ := v
    simp only [Except.mapError]
    split
    · exact arguments_relocate 0 _ ((paddedString_rest_le hs).trans hb)
    · rfl

/-- A message is read the same way `k` bytes further on, and each of its failures is moved `k`
bytes on. -/
theorem message_relocate (hb : bs.length ≤ stop) :
    message (stop + k) bs = (message stop bs).mapError (Error.shift k) := by
  unfold message
  rw [text_relocate hb]
  cases ht : text stop "address" bs with
  | error e => rfl
  | ok v =>
    obtain ⟨address, rest⟩ := v
    have hr : rest.length ≤ stop := (text_rest_le ht).trans hb
    simp only [Except.mapError, bind, Except.bind]
    rw [typedArguments_relocate hr]
    cases hta : typedArguments stop rest with
    | error e => rfl
    | ok w =>
      obtain ⟨args, rest'⟩ := w
      simp only [Except.mapError]
      split
      · rfl
      · rw [Nat.sub_add_comm ((typedArguments_rest_le hta).trans hr)]
        rfl

end Messages

/-! ## Packets one level deeper -/

/-- Reading a region `k` bytes further on, one level deeper and under a limit one higher, gives
the same packet or the same failure, moved `k` bytes on and naming the higher limit if it is the
depth failure; and the same holds of bundles and of element areas. -/
theorem packet_lifted (limit : Nat) :
    (∀ depth stop bs, ∀ k, bs.length ≤ stop →
      Except.Agree (Error.Lifted limit k) (packet limit depth stop bs)
        (packet (limit + 1) (depth + 1) (stop + k) bs)) ∧
    (∀ depth stop bs, ∀ k, bs.length ≤ stop →
      Except.Agree (Error.Lifted limit k) (bundle limit depth stop bs)
        (bundle (limit + 1) (depth + 1) (stop + k) bs)) ∧
    (∀ depth stop i bs, ∀ k, bs.length ≤ stop →
      Except.Agree (Error.Lifted limit k) (elements limit depth stop i bs)
        (elements (limit + 1) (depth + 1) (stop + k) i bs)) := by
  refine packet.mutual_induct limit
    (fun depth stop bs => ∀ k, bs.length ≤ stop →
      Except.Agree (Error.Lifted limit k) (packet limit depth stop bs)
        (packet (limit + 1) (depth + 1) (stop + k) bs))
    (fun depth stop bs => ∀ k, bs.length ≤ stop →
      Except.Agree (Error.Lifted limit k) (bundle limit depth stop bs)
        (bundle (limit + 1) (depth + 1) (stop + k) bs))
    (fun depth stop i bs => ∀ k, bs.length ≤ stop →
      Except.Agree (Error.Lifted limit k) (elements limit depth stop i bs)
        (elements (limit + 1) (depth + 1) (stop + k) i bs))
    ?_ ?_ ?_ ?_ ?_ ?_ ?_ ?_ ?_ ?_ ?_ ?_
  -- a region is read as a bundle or as a message by its first bytes alone
  · intro depth stop bs hm ih k hb
    rw [packet.eq_1, if_pos hm, packet.eq_1, if_pos hm]
    exact ih k hb
  · intro depth stop bs hm k hb
    rw [packet.eq_1, if_neg hm, packet.eq_1, if_neg hm, message_relocate hb, Except.map_mapError]
    exact Except.Agree.of_mapError fun _ => .inl rfl
  -- the level is checked against the limit first: one level deeper under a limit one higher
  · intro depth stop bs hd k hb
    rw [bundle.eq_1, if_pos hd, bundle.eq_1, if_pos (by omega)]
    refine .inr ⟨rfl, rfl, ?_⟩
    rw [Nat.sub_add_comm hb]
    rfl
  -- then the marker's bytes and the marker
  · intro depth stop bs hd hs k hb
    rw [bundle.eq_1, if_neg hd, if_pos hs, bundle.eq_1, if_neg (by omega), if_pos hs,
      shortError_relocate hb]
    exact .inl rfl
  · intro depth stop bs hd hs hne k hb
    rw [bundle.eq_1, if_neg hd, if_neg hs, if_pos hne, bundle.eq_1, if_neg (by omega), if_neg hs,
      if_pos hne, Nat.sub_add_comm hb]
    exact .inl rfl
  -- then the elements after the time tag
  · intro depth stop bs hd hs hmk b0 b1 b2 b3 b4 b5 b6 b7 rest hdrop ih k hb
    have hbs := eq_marker_append hmk hdrop
    have hl : rest.length ≤ stop := by
      rw [hbs] at hb
      simp only [List.length_append] at hb
      omega
    rw [hbs, bundle_marker, bundle_marker, if_neg hd, if_neg (by omega)]
    exact (ih k hl).map _
  · intro depth stop bs hd hs hmk hne k hb
    rw [bundle.eq_1, if_neg hd, if_neg hs, if_neg hmk, bundle.eq_1, if_neg (by omega), if_neg hs,
      if_neg hmk]
    split
    · rename_i b0 b1 b2 b3 b4 b5 b6 b7 rest hdrop
      exact (hne b0 b1 b2 b3 b4 b5 b6 b7 rest hdrop).elim
    · rw [shortError_relocate (by simp only [List.length_drop]; omega)]
      exact .inl rfl
  -- the empty element area
  · intro depth stop i k _
    rw [elements.eq_1, elements.eq_1]
    rfl
  -- a frame longer than what is left
  · intro depth stop i b0 b1 b2 b3 rest size hlt k hb
    simp only [List.length_cons] at hb
    rw [elements.eq_2, if_pos hlt, elements.eq_2, if_pos hlt, Nat.sub_add_comm (by omega)]
    exact .error (Error.Lifted.inElement (.inl rfl) i)
  -- an element is read as a region of its own, ending within the area
  · intro depth stop i b0 b1 b2 b3 rest size hge e he ih k hb
    simp only [List.length_cons] at hb
    have hsub : stop + k - rest.length + size = stop - rest.length + size + k := by omega
    obtain ⟨e', he', hl⟩ := Except.Agree.eq_error
      (he ▸ ih k (by rw [List.length_take]; omega))
    rw [elements.eq_2, if_neg hge, he, elements.eq_2, if_neg hge, hsub, he']
    exact .error (hl.inElement i)
  · intro depth stop i b0 b1 b2 b3 rest size hge p hp ih ihs k hb
    simp only [List.length_cons] at hb
    have hsub : stop + k - rest.length + size = stop - rest.length + size + k := by omega
    have hp' := Except.Agree.eq_ok (hp ▸ ih k (by rw [List.length_take]; omega))
    rw [elements.eq_2, if_neg hge, hp, elements.eq_2, if_neg hge, hsub, hp']
    exact (ihs k (by rw [List.length_drop]; omega)).map _
  -- a size field cut short
  · intro depth stop i more hnil hshort k hb
    rw [elements.eq_3 _ _ _ _ _ hnil hshort, elements.eq_3 _ _ _ _ _ hnil hshort,
      shortError_relocate hb]
    exact .error (Error.Lifted.inElement (.inl rfl) i)

/-- An element read on its own, as the packet it is, and read from a frame that ends at `stop`
inside a bundle one level up under a limit one higher. -/
theorem packet_in_frame (limit : Nat) {stop : Nat} {e : Bytes} (hb : e.length ≤ stop) :
    Except.Agree (Error.Lifted limit (stop - e.length)) (packet limit 1 e.length e)
      (packet (limit + 1) 2 stop e) := by
  have h := (packet_lifted limit).1 1 e.length e (stop - e.length) le_rfl
  rwa [Nat.add_sub_cancel' hb] at h

end Wire.Decode

/-! ## Bundles from frames -/

/-- The size-prefixed frames of the elements `es`: each element's length as a 32-bit word, then
the element. -/
def Bytes.framed (es : List Bytes) : Bytes :=
  (es.map fun e => Bytes.ofWord32 e.length.toUInt32 ++ e).flatten

@[simp] theorem Bytes.framed_nil : Bytes.framed [] = [] := rfl

theorem Bytes.framed_cons (e : Bytes) (es : List Bytes) :
    Bytes.framed (e :: es) = Bytes.ofWord32 e.length.toUInt32 ++ (e ++ Bytes.framed es) := by
  simp [Bytes.framed]

/-- The bytes of a bundle with time tag `tt` whose elements are `es`: the marker, the time tag and
the elements' frames. -/
def bundleLayout (tt : Timetag) (es : List Bytes) : Bytes :=
  bundleMarker ++ Bytes.ofWord64 tt.bits ++ Bytes.framed es

theorem Error.Lifted.fields {limit k : Nat} {e e' : Error} (h : e.Lifted limit k e') :
    e'.stage = e.stage ∧ e'.fault = e.fault ∧ e'.argument = e.argument ∧ e'.path = e.path ∧
      e'.offset = e.offset.map (· + k) ∧
      (e'.detail = e.detail ∨ e.fault = .depthExceeded ∧ e.detail = "limit " ++ toString limit ∧
        e'.detail = "limit " ++ toString (limit + 1)) := by
  rcases h with rfl | ⟨hf, hd, rfl⟩
  · exact ⟨rfl, rfl, rfl, rfl, rfl, .inl rfl⟩
  · exact ⟨rfl, rfl, rfl, rfl, rfl, .inr ⟨hf, hd, rfl⟩⟩

namespace Wire.Decode

section Frames

variable {limit depth stop i : Nat} {e : Bytes} {es : List Bytes}

/-- A size that fits its 32-bit word comes back from it unchanged. -/
theorem toNat_toUInt32_of_lt {n : Nat} (h : n < 2 ^ 32) : n.toUInt32.toNat = n := by
  simp only [Nat.toUInt32_eq, UInt32.toNat_ofNat']
  exact Nat.mod_eq_of_lt h

theorem framed_length_cons (e : Bytes) (es : List Bytes) :
    (Bytes.framed (e :: es)).length = 4 + e.length + (Bytes.framed es).length := by
  simp only [Bytes.framed_cons, List.length_append, Bytes.ofWord32_length]
  omega

/-- The frame of `e` ends where the frames after it start. -/
theorem framed_stop_sub (hb : (Bytes.framed (e :: es)).length ≤ stop) :
    stop - (e ++ Bytes.framed es).length + e.length = stop - (Bytes.framed es).length := by
  rw [framed_length_cons e es] at hb
  rw [List.length_append]
  omega

/-- The first frame of an element area whose element fails. -/
theorem elements_framed_error (he : e.length < 2 ^ 32)
    (hb : (Bytes.framed (e :: es)).length ≤ stop) {err : Error}
    (hp : packet limit (depth + 1) (stop - (Bytes.framed es).length) e = .error err) :
    elements limit depth stop i (Bytes.framed (e :: es)) = .error (err.inElement i) := by
  rw [Bytes.framed_cons, elements_frame, toNat_toUInt32_of_lt he, if_neg (by simp), List.take_left,
    List.drop_left, framed_stop_sub hb, hp]

/-- The first frame of an element area whose element is read. -/
theorem elements_framed_ok (he : e.length < 2 ^ 32)
    (hb : (Bytes.framed (e :: es)).length ≤ stop) {p : Packet}
    (hp : packet limit (depth + 1) (stop - (Bytes.framed es).length) e = .ok p) :
    elements limit depth stop i (Bytes.framed (e :: es)) =
      (elements limit depth stop (i + 1) (Bytes.framed es)).map (p :: ·) := by
  rw [Bytes.framed_cons, elements_frame, toNat_toUInt32_of_lt he, if_neg (by simp), List.take_left,
    List.drop_left, framed_stop_sub hb, hp]

/-- An element area of frames is read, one level up and under a limit one higher, exactly when each
frame's element is read as a packet on its own. -/
theorem elements_framed_eq_ok (hes : ∀ e ∈ es, e.length < 2 ^ 32)
    (hb : (Bytes.framed es).length ≤ stop) (qs : List Packet) :
    elements (limit + 1) 1 stop i (Bytes.framed es) = .ok qs ↔
      List.Forall₂ (fun e q => packet limit 1 e.length e = .ok q) es qs := by
  -- induction on the frames; each step reads one element, one level up
  induction es generalizing i qs with
  | nil =>
    rw [Bytes.framed_nil, elements.eq_1, Except.ok.injEq, List.forall₂_nil_left_iff, eq_comm]
  | cons e es ih =>
    have he := hes e List.mem_cons_self
    have hl := framed_length_cons e es
    have hes' : ∀ e ∈ es, e.length < 2 ^ 32 := fun e' h => hes e' (List.mem_cons_of_mem _ h)
    have hframe := packet_in_frame limit
      (show e.length ≤ stop - (Bytes.framed es).length by omega)
    rw [List.forall₂_cons_left_iff]
    cases hq : packet limit 1 e.length e with
    | error err =>
      obtain ⟨err', he', -⟩ := Except.Agree.eq_error (hq ▸ hframe)
      rw [elements_framed_error he hb he']
      simp
    | ok q =>
      rw [elements_framed_ok he hb (Except.Agree.eq_ok (hq ▸ hframe)), Except.map_eq_ok]
      constructor
      · rintro ⟨qs', hqs', rfl⟩
        exact ⟨q, qs', rfl, (ih hes' (by omega) qs').mp hqs', rfl⟩
      · rintro ⟨q', qs', hq', hqs', rfl⟩
        cases hq'
        exact ⟨qs', (ih hes' (by omega) qs').mpr hqs', rfl⟩

/-- An element area of frames whose element `j` is the first that fails on its own fails, one level
up and under a limit one higher, in element `i + j`, as that element does, moved to where its frame
starts. -/
theorem elements_framed_eq_error (hes : ∀ e ∈ es, e.length < 2 ^ 32)
    (hb : (Bytes.framed es).length ≤ stop) {j : Nat} {err : Error} (hj : es[j]? = some e)
    (hok : ∀ e' ∈ es.take j, ∃ q, packet limit 1 e'.length e' = .ok q)
    (he : packet limit 1 e.length e = .error err) :
    ∃ err', elements (limit + 1) 1 stop i (Bytes.framed es) = .error (err'.inElement (i + j)) ∧
      err.Lifted limit
        (stop - (Bytes.framed es).length + 4 + ((es.take j).map fun e => 4 + e.length).sum)
        err' := by
  -- induction on the frames before the failing one, each of which is read
  induction es generalizing i j with
  | nil => simp at hj
  | cons e0 es ih =>
    have he0 := hes e0 List.mem_cons_self
    have hl := framed_length_cons e0 es
    have hes' : ∀ e ∈ es, e.length < 2 ^ 32 := fun e' h => hes e' (List.mem_cons_of_mem _ h)
    have hframe := packet_in_frame limit
      (show e0.length ≤ stop - (Bytes.framed es).length by omega)
    cases j with
    | zero =>
      simp only [List.getElem?_cons_zero, Option.some.injEq] at hj
      subst hj
      obtain ⟨err', he', hlift⟩ := Except.Agree.eq_error (he ▸ hframe)
      refine ⟨err', elements_framed_error he0 hb he', ?_⟩
      have : stop - (Bytes.framed es).length - e0.length =
          stop - (Bytes.framed (e0 :: es)).length + 4 := by omega
      simpa [this] using hlift
    | succ j =>
      simp only [List.getElem?_cons_succ] at hj
      simp only [List.take_succ_cons, List.mem_cons, forall_eq_or_imp] at hok
      obtain ⟨⟨q, hq⟩, hok⟩ := hok
      obtain ⟨err', he', hlift⟩ := ih hes' (by omega) hj hok (i := i + 1)
      refine ⟨err', ?_, ?_⟩
      · rw [elements_framed_ok he0 hb (Except.Agree.eq_ok (hq ▸ hframe)), he',
          Nat.add_right_comm, Nat.add_assoc]
        rfl
      · have : stop - (Bytes.framed es).length + 4 + ((es.take j).map fun e => 4 + e.length).sum =
            stop - (Bytes.framed (e0 :: es)).length + 4 +
              ((List.take (j + 1) (e0 :: es)).map fun e => 4 + e.length).sum := by
          simp only [List.take_succ_cons, List.map_cons, List.sum_cons]
          omega
        rwa [← this]

end Frames

end Wire.Decode

/-- A bundle built from size-prefixed frames is read element by element: under a limit one higher,
it is read exactly when each element is read on its own; and if element `j` is the first that
fails on its own, the bundle fails as that element does, with the same kind, argument and detail
(but for the limit that a depth failure names), with the offset counted from the start of the
bundle, where the element's frame starts `20` bytes plus the frames before it in, and with `j` in
front of its path. -/
theorem decode_bundle_frames (c c' : Codec) (hc : c'.maxDepth = c.maxDepth + 1) (tt : Timetag)
    (es : List Bytes) (hes : ∀ e ∈ es, e.length < 2 ^ 32) :
    (∀ qs, c'.decode (bundleLayout tt es) = .ok (.bundle tt qs) ↔
      List.Forall₂ (fun e q => c.decode e = .ok q) es qs) ∧
    ∀ j e err, es[j]? = some e → (∀ e' ∈ es.take j, ∃ q, c.decode e' = .ok q) →
      c.decode e = .error err →
      ∃ err', c'.decode (bundleLayout tt es) = .error err' ∧
        err'.stage = err.stage ∧ err'.fault = err.fault ∧ err'.argument = err.argument ∧
        (err'.detail = err.detail ∨ err.fault = .depthExceeded ∧
          err.detail = "limit " ++ toString c.maxDepth ∧
          err'.detail = "limit " ++ toString c'.maxDepth) ∧
        err'.offset = err.offset.map (· + (20 + ((es.take j).map fun e => 4 + e.length).sum)) ∧
        err'.path = j :: err.path := by
  have hm : Wire.Decode.startsWithMarker (bundleLayout tt es) = true := by
    simp [Wire.Decode.startsWithMarker, bundleLayout, bundleMarker]
  have hlen : (bundleLayout tt es).length = 16 + (Bytes.framed es).length := by
    simp only [bundleLayout, List.length_append, Bytes.ofWord64_length]
    rw [show bundleMarker.length = 8 from rfl]
  -- the bundle at level one reads its elements at level one, under the higher limit
  have hread : c'.decode (bundleLayout tt es) =
      (Wire.Decode.elements (c.maxDepth + 1) 1 (bundleLayout tt es).length 0
        (Bytes.framed es)).map (.bundle tt) := by
    rw [Codec.decode, hc, Wire.Decode.packet.eq_1, if_pos hm, bundleLayout,
      Wire.Decode.bundle_marker, if_neg (by omega)]
  refine ⟨fun qs => ?_, fun j e err hj hok he => ?_⟩
  · rw [hread, Except.map_eq_ok]
    constructor
    · rintro ⟨qs', hqs', hq⟩
      cases hq
      exact (Wire.Decode.elements_framed_eq_ok hes (by omega) qs).mp hqs'
    · intro h
      exact ⟨qs, (Wire.Decode.elements_framed_eq_ok hes (by omega) qs).mpr h, rfl⟩
  · obtain ⟨err', he', hlift⟩ := Wire.Decode.elements_framed_eq_error hes
      (show (Bytes.framed es).length ≤ (bundleLayout tt es).length by omega) hj hok he (i := 0)
    obtain ⟨hs, hf, ha, hp, ho, hd⟩ := hlift.fields
    refine ⟨err'.inElement j, by rw [hread, he', Nat.zero_add]; rfl, hs, hf, ha, ?_, ?_, ?_⟩
    · rw [hc]
      exact hd
    · have h20 : 16 + (Bytes.framed es).length - (Bytes.framed es).length + 4 = 20 := by omega
      rw [Error.inElement, ho, hlen, h20]
    · rw [Error.inElement, hp]

/-- A bundle at level two around the message `/a ,i 1`, read under limits two and one. -/
theorem decode_bundle_frames_sample :
    ({ maxDepth := 2 } : Codec).maxDepth = ({ maxDepth := 1 } : Codec).maxDepth + 1 ∧
    (∀ e ∈ [[0x2F, 0x61, 0, 0, 0x2C, 0x69, 0, 0, 0, 0, 0, 1]], (e : Bytes).length < 2 ^ 32) ∧
    ((∀ qs, ({ maxDepth := 2 } : Codec).decode
        (bundleLayout Timetag.immediate [[0x2F, 0x61, 0, 0, 0x2C, 0x69, 0, 0, 0, 0, 0, 1]]) =
          .ok (.bundle Timetag.immediate qs) ↔
        List.Forall₂ (fun e q => ({ maxDepth := 1 } : Codec).decode e = .ok q)
          [[0x2F, 0x61, 0, 0, 0x2C, 0x69, 0, 0, 0, 0, 0, 1]] qs) ∧
      ∀ j e err, ([[0x2F, 0x61, 0, 0, 0x2C, 0x69, 0, 0, 0, 0, 0, 1]] : List Bytes)[j]? = some e →
        (∀ e' ∈ ([[0x2F, 0x61, 0, 0, 0x2C, 0x69, 0, 0, 0, 0, 0, 1]] : List Bytes).take j,
          ∃ q, ({ maxDepth := 1 } : Codec).decode e' = .ok q) →
        ({ maxDepth := 1 } : Codec).decode e = .error err →
        ∃ err', ({ maxDepth := 2 } : Codec).decode
            (bundleLayout Timetag.immediate [[0x2F, 0x61, 0, 0, 0x2C, 0x69, 0, 0, 0, 0, 0, 1]]) =
              .error err' ∧
          err'.stage = err.stage ∧ err'.fault = err.fault ∧ err'.argument = err.argument ∧
          (err'.detail = err.detail ∨ err.fault = .depthExceeded ∧
            err.detail = "limit " ++ toString ({ maxDepth := 1 } : Codec).maxDepth ∧
            err'.detail = "limit " ++ toString ({ maxDepth := 2 } : Codec).maxDepth) ∧
          err'.offset = err.offset.map (· + (20 +
            ((([[0x2F, 0x61, 0, 0, 0x2C, 0x69, 0, 0, 0, 0, 0, 1]] : List Bytes).take j).map
              fun e => 4 + e.length).sum)) ∧
          err'.path = j :: err.path) :=
  ⟨rfl, by simp, decode_bundle_frames _ _ rfl Timetag.immediate _ (by simp)⟩

end SoundControl
