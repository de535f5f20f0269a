import SoundControl.Proofs.Wire.Failures
import Mathlib

/-! # The nesting limit of reading

A lower nesting limit reads what a higher one reads, unless the packet has a bundle beyond it,
and then fails at the first such bundle in pre-order (`decode_under_lower_limit`). -/

namespace SoundControl

/-! ## Bundle levels of a packet -/

mutual

/-- The number of bundle levels on the deepest branch of a packet. -/
def Packet.nesting : Packet → Nat
  | .bundle _ els => Packet.nestingAll els + 1
  | _ => 0

/-- The largest nesting of a list of packets. -/
def Packet.nestingAll : List Packet → Nat
  | [] => 0
  | p :: ps => max p.nesting (Packet.nestingAll ps)

end

mutual

/-- The element path to the first bundle at level `n` of a packet in pre-order, where the packet
itself, if it is a bundle, is at level one. -/
def Packet.bundleAt (n : Nat) : Packet → Option (List Nat)
  | .bundle _ els =>
    match n with
    | 0 => none
    | 1 => some []
    | n + 2 => Packet.bundleAtAll (n + 1) 0 els
  | _ => none

/-- The element path to the first bundle at level `n` among packets whose first has index `i`,
the index of its packet first. -/
def Packet.bundleAtAll (n i : Nat) : List Packet → Option (List Nat)
  | [] => none
  | p :: ps => ((p.bundleAt n).map (i :: ·)).or (Packet.bundleAtAll n (i + 1) ps)

end

mutual

/-- A packet has no bundle at level `m + 1` exactly when it nests at most `m` levels deep. -/
theorem Packet.bundleAt_eq_none :
    ∀ (m : Nat) (p : Packet), p.bundleAt (m + 1) = none ↔ p.nesting ≤ m
  | 0, .bundle _ els => by
    rw [Packet.bundleAt, Packet.nesting]
    simp
  | m + 1, .bundle _ els => by
    rw [Packet.bundleAt, Packet.nesting]
    rw [Packet.bundleAtAll_eq_none m 0 els]
    omega
  | _, .absent | _, .nullMessage | _, .nullBundle | _, .message _ => iff_of_true rfl (Nat.zero_le _)

theorem Packet.bundleAtAll_eq_none : ∀ (m i : Nat) (ps : List Packet),
    Packet.bundleAtAll (m + 1) i ps = none ↔ Packet.nestingAll ps ≤ m
  | _, _, [] => by simp [Packet.bundleAtAll, Packet.nestingAll]
  | m, i, p :: ps => by
    rw [Packet.bundleAtAll, Packet.nestingAll, Option.or_eq_none_iff, Option.map_eq_none_iff,
      Packet.bundleAt_eq_none m p, Packet.bundleAtAll_eq_none m (i + 1) ps]
    omega

end

mutual

/-- The path to a bundle at level `m + 1` has `m` indexes. -/
theorem Packet.length_of_bundleAt : ∀ (m : Nat) (p : Packet) (path : List Nat),
    p.bundleAt (m + 1) = some path → path.length = m
  | 0, .bundle _ _, path, h => by
    rw [Packet.bundleAt, Option.some.injEq] at h
    rw [← h]
    rfl
  | m + 1, .bundle _ els, path, h => by
    rw [Packet.bundleAt] at h
    exact Packet.length_of_bundleAtAll m 0 els path h
  | _, .absent, _, h | _, .nullMessage, _, h | _, .nullBundle, _, h | _, .message _, _, h => by
    cases h

theorem Packet.length_of_bundleAtAll : ∀ (m i : Nat) (ps : List Packet) (path : List Nat),
    Packet.bundleAtAll (m + 1) i ps = some path → path.length = m + 1
  | _, _, [], _, h => by simp [Packet.bundleAtAll] at h
  | m, i, p :: ps, path, h => by
    rw [Packet.bundleAtAll, Option.or_eq_some_iff, Option.map_eq_some_iff] at h
    rcases h with ⟨path', hp, rfl⟩ | ⟨-, h⟩
    · rw [List.length_cons, Packet.length_of_bundleAt m p path' hp]
    · exact Packet.length_of_bundleAtAll m (i + 1) ps path h

end

/-! ## Where a packet starts -/

/-- Where the element of frame `j` starts in an element area: after the frames before it, each its
size word and its bytes, and after its own size word. -/
def Bytes.frameStart (area : Bytes) (j : Nat) : Nat :=
  (((Bytes.frames area).take j).map fun f => 4 + f.length).sum + 4

/-- The offset, from the start of the packet region `bs`, of the packet reached by following
element indexes: the elements of a bundle are the frames after its marker and time tag. -/
def Bytes.offsetAt (bs : Bytes) : List Nat → Option Nat
  | [] => some 0
  | j :: path => (Bytes.frames (bs.drop 16))[j]?.bind fun r =>
    (r.offsetAt path).map (16 + Bytes.frameStart (bs.drop 16) j + ·)

namespace Bytes

theorem frameStart_zero (area : Bytes) : frameStart area 0 = 4 := by
  simp [frameStart]

theorem frameStart_succ {a b c d : UInt8} {rest : Bytes} (h : (word32 a b c d).toNat ≤ rest.length)
    (j : Nat) :
    frameStart (a :: b :: c :: d :: rest) (j + 1) =
      4 + (word32 a b c d).toNat + frameStart (rest.drop (word32 a b c d).toNat) j := by
  simp only [frameStart, frames_cons h, List.take_succ_cons, List.map_cons, List.sum_cons,
    List.length_take, Nat.min_eq_left h]
  omega

/-- The offset of a packet inside an element is the offset of the element's frame, counted from
the start of the element area, plus the bundle's marker and time tag. -/
theorem offsetAt_cons (bs : Bytes) (j : Nat) (path : List Nat) :
    bs.offsetAt (j :: path) = ((frames (bs.drop 16))[j]?.bind fun r =>
      (r.offsetAt path).map (frameStart (bs.drop 16) j + ·)).map (16 + ·) := by
  rw [offsetAt]
  cases (frames (bs.drop 16))[j]? with
  | none => rfl
  | some r =>
    simp only [Option.bind_some, Option.map_map]
    congr 1
    funext o
    simp only [Function.comp_apply]
    omega

/-- The offset of a packet inside frame `j + 1` of an element area, counted from the start of the
area, is its offset inside frame `j` of the frames after the first, moved past the first. -/
theorem frameOffset_succ {a b c d : UInt8} {rest : Bytes} (h : (word32 a b c d).toNat ≤ rest.length)
    (j : Nat) (path : List Nat) :
    ((frames (a :: b :: c :: d :: rest))[j + 1]?.bind fun r =>
        (r.offsetAt path).map (frameStart (a :: b :: c :: d :: rest) (j + 1) + ·)) =
      ((frames (rest.drop (word32 a b c d).toNat))[j]?.bind fun r =>
        (r.offsetAt path).map (frameStart (rest.drop (word32 a b c d).toNat) j + ·)).map
          (4 + (word32 a b c d).toNat + ·) := by
  rw [frames_cons h, List.getElem?_cons_succ, frameStart_succ h]
  cases (frames (rest.drop (word32 a b c d).toNat))[j]? with
  | none => rfl
  | some r =>
    simp only [Option.bind_some, Option.map_map]
    congr 1
    funext o
    simp only [Function.comp_apply]
    omega

end Bytes

namespace Wire.Decode

/-- The failure of reading a bundle beyond the nesting limit `limit`, at offset `o` of the
outermost region and at element path `path`. -/
def depthFailure (limit o : Nat) (path : List Nat) : Error :=
  { stage := .decode, fault := .depthExceeded, detail := "limit " ++ toString limit,
    offset := some o, path := path }

/-! ## A higher limit -/

/-- A higher limit reads every packet that a lower one reads, and reads it the same; the same
holds of bundles and of element areas. -/
theorem packet_mono {limit limit' : Nat} (hl : limit ≤ limit') :
    (∀ depth stop bs p, packet limit depth stop bs = .ok p →
      packet limit' depth stop bs = .ok p) ∧
    (∀ depth stop bs p, bundle limit depth stop bs = .ok p →
      bundle limit' depth stop bs = .ok p) ∧
    (∀ depth stop i bs ps, elements limit depth stop i bs = .ok ps →
      elements limit' depth stop i bs = .ok ps) := by
  refine packet.mutual_induct limit
    (fun depth stop bs => ∀ p, packet limit depth stop bs = .ok p →
      packet limit' depth stop bs = .ok p)
    (fun depth stop bs => ∀ p, bundle limit depth stop bs = .ok p →
      bundle limit' depth stop bs = .ok p)
    (fun depth stop i bs => ∀ ps, elements limit depth stop i bs = .ok ps →
      elements limit' depth stop i bs = .ok ps)
    ?_ ?_ ?_ ?_ ?_ ?_ ?_ ?_ ?_ ?_ ?_ ?_
  -- the choice between bundle and message does not depend on the limit
  · intro depth stop bs hm ih p h
    rw [packet.eq_1, if_pos hm] at h ⊢
    exact ih p h
  · intro depth stop bs hm p h
    rw [packet.eq_1, if_neg hm] at h ⊢
    exact h
  -- the failures of a bundle are not readings
  · intro depth stop bs hd p h
    rw [bundle.eq_1, if_pos hd] at h
    cases h
  · intro depth stop bs hd hs p h
    rw [bundle.eq_1, if_neg hd, if_pos hs] at h
    cases h
  · intro depth stop bs hd hs hne p h
    rw [bundle.eq_1, if_neg hd, if_neg hs, if_pos hne] at h
    cases h
  -- a bundle within the lower limit is within the higher one
  · intro depth stop bs hd hs hmk b0 b1 b2 b3 b4 b5 b6 b7 rest hdrop ih p h
    rw [eq_marker_append hmk hdrop, bundle_marker, if_neg hd] at h
    obtain ⟨els, hels, rfl⟩ := Except.map_eq_ok.mp h
    rw [eq_marker_append hmk hdrop, bundle_marker, if_neg (by omega), ih els hels]
    rfl
  · intro depth stop bs hd hs hmk hne p h
    rw [bundle.eq_1, if_neg hd, if_neg hs, if_neg hmk] at h
    split at h
    · rename_i b0 b1 b2 b3 b4 b5 b6 b7 rest hdrop
      exact (hne b0 b1 b2 b3 b4 b5 b6 b7 rest hdrop).elim
    · cases h
  -- element areas: each frame as read under the lower limit
  · intro depth stop i ps h
    rw [elements.eq_1] at h ⊢
    exact h
  · intro depth stop i b0 b1 b2 b3 rest size hlt ps h
    rw [elements.eq_2, if_pos hlt] at h
    cases h
  · intro depth stop i b0 b1 b2 b3 rest size hge e he _ ps h
    rw [elements.eq_2, if_neg hge, he] at h
    cases h
  · intro depth stop i b0 b1 b2 b3 rest size hge p hp ih ihs ps h
    rw [elements.eq_2, if_neg hge, hp] at h
    obtain ⟨ps', hps', rfl⟩ := Except.map_eq_ok.mp h
    rw [elements.eq_2, if_neg hge, ih p hp, ihs ps' hps']
    rfl
  · intro depth stop i more hnil hshort ps h
    rw [elements.eq_3 _ _ _ _ _ hnil hshort] at h
    cases h

/-! ## A lower limit -/

/-- How reading the packet region `bs` at level `depth` under the limit `m` ends, when a higher
limit reads it as `p`: with `p` if `p` has no bundle at level `m + 1` of the whole, and otherwise
with the depth failure at the first such bundle in pre-order, where that bundle starts. -/
def CutsAt (m depth stop : Nat) (bs : Bytes) (p : Packet) (r : Except Error Packet) : Prop :=
  (p.bundleAt (m + 2 - depth) = none → r = .ok p) ∧
  ∀ path, p.bundleAt (m + 2 - depth) = some path →
    ∃ o, bs.offsetAt path = some o ∧ r = .error (depthFailure m (stop - bs.length + o) path)

/-- The same for the element area `bs` of a bundle at level `depth`, whose first element has index
`i`, read as `ps` by a higher limit; an element's offset is counted from the start of the area. -/
def CutsAmong (m depth stop i : Nat) (bs : Bytes) (ps : List Packet)
    (r : Except Error (List Packet)) : Prop :=
  (Packet.bundleAtAll (m + 1 - depth) i ps = none → r = .ok ps) ∧
  ∀ path, Packet.bundleAtAll (m + 1 - depth) i ps = some path →
    ∃ j rest o, path = (i + j) :: rest ∧
      ((Bytes.frames bs)[j]?.bind fun r => (r.offsetAt rest).map (Bytes.frameStart bs j + ·)) =
        some o ∧
      r = .error (depthFailure m (stop - bs.length + o) path)

/-- Where a higher limit `M` reads a region, a lower limit `m` reads it in lock step until the first
bundle at level `m + 1`, and fails there on the nesting depth before reading its marker. -/
theorem packet_cut {m M : Nat} :
    (∀ depth stop bs p, packet M depth stop bs = .ok p → depth ≤ m + 1 → bs.length ≤ stop →
      CutsAt m depth stop bs p (packet m depth stop bs)) ∧
    (∀ depth stop bs p, bundle M depth stop bs = .ok p → depth ≤ m + 1 → bs.length ≤ stop →
      CutsAt m depth stop bs p (bundle m depth stop bs)) ∧
    (∀ depth stop i bs ps, elements M depth stop i bs = .ok ps → depth ≤ m → bs.length ≤ stop →
      CutsAmong m depth stop i bs ps (elements m depth stop i bs)) := by
  refine packet.mutual_induct M
    (fun depth stop bs => ∀ p, packet M depth stop bs = .ok p → depth ≤ m + 1 →
      bs.length ≤ stop → CutsAt m depth stop bs p (packet m depth stop bs))
    (fun depth stop bs => ∀ p, bundle M depth stop bs = .ok p → depth ≤ m + 1 →
      bs.length ≤ stop → CutsAt m depth stop bs p (bundle m depth stop bs))
    (fun depth stop i bs => ∀ ps, elements M depth stop i bs = .ok ps → depth ≤ m →
      bs.length ≤ stop → CutsAmong m depth stop i bs ps (elements m depth stop i bs))
    ?_ ?_ ?_ ?_ ?_ ?_ ?_ ?_ ?_ ?_ ?_ ?_
  -- both limits choose between bundle and message alike; a message holds no bundle
  · intro depth stop bs hm ih p h hd hb
    rw [packet.eq_1, if_pos hm] at h ⊢
    exact ih p h hd hb
  · intro depth stop bs hm p h _ _
    rw [packet.eq_1, if_neg hm] at h ⊢
    obtain ⟨msg, hmsg, rfl⟩ := Except.map_eq_ok.mp h
    refine ⟨fun _ => (by rw [hmsg]; rfl), fun path hpath => ?_⟩
    cases hpath
  -- the higher limit reads no bundle that fails
  · intro depth stop bs hd p h
    rw [bundle.eq_1, if_pos hd] at h
    cases h
  · intro depth stop bs hd hs p h
    rw [bundle.eq_1, if_neg hd, if_pos hs] at h
    cases h
  · intro depth stop bs hd hs hne p h
    rw [bundle.eq_1, if_neg hd, if_neg hs, if_pos hne] at h
    cases h
  -- a bundle: at level `m + 1` it is the first bundle that is too deep, else its elements decide
  · intro depth stop bs hd hs hmk b0 b1 b2 b3 b4 b5 b6 b7 rest hdrop ih p h hdm hb
    have hbs := eq_marker_append hmk hdrop
    have hbody : bs.drop 16 = rest := by
      rw [show 16 = 8 + 8 from rfl, ← List.drop_drop, hdrop]
      rfl
    have hlen : bs.length = 16 + rest.length := by
      rw [hbs]
      simp only [List.length_append, Bytes.ofWord64_length]
      rw [show bundleMarker.length = 8 from rfl]
    have hread : bundle m depth stop bs = if depth > m then
        .error (decodeError (stop - bs.length) .depthExceeded ("limit " ++ toString m))
        else (elements m depth stop 0 rest).map
          (.bundle ⟨Bytes.word64 (Bytes.word32 b0 b1 b2 b3) (Bytes.word32 b4 b5 b6 b7)⟩) := by
      rw [hbs, bundle_marker, ← hbs, hlen]
    rw [hbs, bundle_marker, if_neg hd] at h
    obtain ⟨els, hels, rfl⟩ := Except.map_eq_ok.mp h
    rw [hread]
    by_cases hdeep : depth > m
    · -- the region is the first bundle at level `m + 1`: its own path is empty
      have hone : m + 2 - depth = 1 := by omega
      rw [if_pos hdeep, CutsAt, hone]
      refine ⟨fun hn => (by cases hn), fun path hpath => ?_⟩
      cases hpath
      exact ⟨0, rfl, rfl⟩
    · have htwo : m + 2 - depth = m - depth + 2 := by omega
      have hcut := ih els hels (by omega) (by omega)
      rw [CutsAmong, show m + 1 - depth = m - depth + 1 by omega] at hcut
      rw [if_neg hdeep, CutsAt, htwo]
      refine ⟨fun hn => (by rw [hcut.1 hn]; rfl), fun path hpath => ?_⟩
      obtain ⟨j, path', o, rfl, ho, he⟩ := hcut.2 path hpath
      refine ⟨16 + o, ?_, ?_⟩
      · rw [Nat.zero_add, Bytes.offsetAt_cons, hbody, ho]
        rfl
      · have hoff : stop - rest.length + o = stop - bs.length + (16 + o) := by omega
        rw [he, hoff]
        rfl
  · intro depth stop bs hd hs hmk hne p h
    rw [bundle.eq_1, if_neg hd, if_neg hs, if_neg hmk] at h
    split at h
    · rename_i b0 b1 b2 b3 b4 b5 b6 b7 rest hdrop
      exact (hne b0 b1 b2 b3 b4 b5 b6 b7 rest hdrop).elim
    · cases h
  -- the empty element area holds no bundle
  · intro depth stop i ps h _ _
    rw [elements.eq_1] at h ⊢
    cases h
    exact ⟨fun _ => rfl, fun path hpath => (by cases hpath)⟩
  -- the higher limit reads no element area that fails
  · intro depth stop i b0 b1 b2 b3 rest size hlt ps h
    rw [elements.eq_2, if_pos hlt] at h
    cases h
  · intro depth stop i b0 b1 b2 b3 rest size hge e he _ ps h
    rw [elements.eq_2, if_neg hge, he] at h
    cases h
  -- a frame: the first bundle at the level is in this element, or else in a later one
  · intro depth stop i b0 b1 b2 b3 rest size hge p hp ih ihs ps h hd hb
    rw [elements.eq_2, if_neg hge, hp] at h
    obtain ⟨ps', hps', rfl⟩ := Except.map_eq_ok.mp h
    simp only [List.length_cons] at hb
    simp only [size] at hge hp ih ihs hps' ⊢
    have hframe := ih p hp (by omega) (by rw [List.length_take]; omega)
    have hrest := ihs ps' hps' hd (by rw [List.length_drop]; omega)
    rw [CutsAt, show m + 2 - (depth + 1) = m + 1 - depth by omega] at hframe
    rw [CutsAmong, Packet.bundleAtAll]
    cases hpb : p.bundleAt (m + 1 - depth) with
    | some path' =>
      obtain ⟨o', ho', he⟩ := hframe.2 path' hpb
      refine ⟨fun hn => (by cases hn), fun path hpath => ?_⟩
      cases hpath
      refine ⟨0, path', 4 + o', rfl, ?_, ?_⟩
      · rw [Bytes.frames_cons (by omega), List.getElem?_cons_zero, Option.bind_some, ho',
          Bytes.frameStart_zero]
        rfl
      · have hoff : stop - rest.length + size - size + o' =
            stop - (b0 :: b1 :: b2 :: b3 :: rest).length + (4 + o') := by
          simp only [List.length_cons]
          omega
        rw [elements.eq_2, if_neg hge, he, List.length_take, Nat.min_eq_left (by omega), hoff]
        rfl
    | none =>
      rw [elements.eq_2, if_neg hge, hframe.1 hpb]
      refine ⟨fun hn => (by rw [hrest.1 hn]; rfl), fun path hpath => ?_⟩
      obtain ⟨j, path', o, rfl, ho, he⟩ := hrest.2 path hpath
      refine ⟨j + 1, path', 4 + size + o, by rw [Nat.add_right_comm, Nat.add_assoc], ?_, ?_⟩
      · rw [Bytes.frameOffset_succ (by omega), ho]
        rfl
      · have hoff : stop - (rest.drop size).length + o =
            stop - (b0 :: b1 :: b2 :: b3 :: rest).length + (4 + size + o) := by
          simp only [List.length_cons, List.length_drop]
          omega
        rw [he, hoff]
        rfl
  · intro depth stop i more hnil hshort ps h
    rw [elements.eq_3 _ _ _ _ _ hnil hshort] at h
    cases h

end Wire.Decode

/-- The nesting limit is all that the limit changes in reading. What a higher limit refuses, a
lower one refuses too. Where a higher limit reads a packet `p`, a lower limit `m` reads the same
`p` if `p` nests at most `m` bundles deep; otherwise it fails on the nesting depth at the first
bundle at level `m + 1` in pre-order, at the offset where that bundle starts, with the `m` element
indexes that lead to it as its path. -/
theorem decode_under_lower_limit (c C : Codec) (hcC : c.maxDepth ≤ C.maxDepth) (d : Bytes) :
    (∀ e, C.decode d = .error e → ∃ e', c.decode d = .error e') ∧
    ∀ p, C.decode d = .ok p →
      (p.nesting ≤ c.maxDepth → c.decode d = .ok p) ∧
      (c.maxDepth < p.nesting → ∃ path o, p.bundleAt (c.maxDepth + 1) = some path ∧
        path.length = c.maxDepth ∧ d.offsetAt path = some o ∧
        c.decode d = .error (Wire.Decode.depthFailure c.maxDepth o path)) := by
  refine ⟨fun e he => ?_, fun p hp => ?_⟩
  · -- a reading under the lower limit would be one under the higher limit
    cases hc : c.decode d with
    | error e' => exact ⟨e', rfl⟩
    | ok p =>
      have := (Wire.Decode.packet_mono hcC).1 1 d.length d p hc
      rw [Codec.decode, this] at he
      cases he
  · have hcut := (Wire.Decode.packet_cut (m := c.maxDepth)).1 1 d.length d p hp (by omega) le_rfl
    rw [Wire.Decode.CutsAt, show c.maxDepth + 2 - 1 = c.maxDepth + 1 by omega, Nat.sub_self] at hcut
    refine ⟨fun hn => hcut.1 ((Packet.bundleAt_eq_none _ p).mpr hn), fun hlt => ?_⟩
    cases hb : p.bundleAt (c.maxDepth + 1) with
    | none => exact absurd ((Packet.bundleAt_eq_none _ p).mp hb) (by omega)
    | some path =>
      obtain ⟨o, ho, he⟩ := hcut.2 path hb
      refine ⟨path, o, rfl, Packet.length_of_bundleAt _ p path hb, ho, ?_⟩
      rw [Codec.decode, he, Nat.zero_add]

/-- A bundle holding an empty bundle nests two levels deep: the default limit reads it, and the
limit one fails at the inner bundle, twenty bytes in, in element 0. -/
theorem decode_under_lower_limit_sample :
    ({ maxDepth := 1 } : Codec).maxDepth ≤ Codec.default.maxDepth ∧
    (∀ e, Codec.default.decode (bundleMarker ++ [0, 0, 0, 0, 0, 0, 0, 1, 0, 0, 0, 16] ++
        bundleMarker ++ [0, 0, 0, 0, 0, 0, 0, 1]) = .error e →
      ∃ e', ({ maxDepth := 1 } : Codec).decode (bundleMarker ++ [0, 0, 0, 0, 0, 0, 0, 1, 0, 0, 0, 16] ++
        bundleMarker ++ [0, 0, 0, 0, 0, 0, 0, 1]) = .error e') ∧
    ∀ p, Codec.default.decode (bundleMarker ++ [0, 0, 0, 0, 0, 0, 0, 1, 0, 0, 0, 16] ++
        bundleMarker ++ [0, 0, 0, 0, 0, 0, 0, 1]) = .ok p →
      (p.nesting ≤ ({ maxDepth := 1 } : Codec).maxDepth →
        ({ maxDepth := 1 } : Codec).decode (bundleMarker ++ [0, 0, 0, 0, 0, 0, 0, 1, 0, 0, 0, 16] ++
          bundleMarker ++ [0, 0, 0, 0, 0, 0, 0, 1]) = .ok p) ∧
      (({ maxDepth := 1 } : Codec).maxDepth < p.nesting → ∃ path o,
        p.bundleAt (({ maxDepth := 1 } : Codec).maxDepth + 1) = some path ∧
        path.length = ({ maxDepth := 1 } : Codec).maxDepth ∧
        (bundleMarker ++ [0, 0, 0, 0, 0, 0, 0, 1, 0, 0, 0, 16] ++
          bundleMarker ++ [0, 0, 0, 0, 0, 0, 0, 1]).offsetAt path = some o ∧
        ({ maxDepth := 1 } : Codec).decode (bundleMarker ++ [0, 0, 0, 0, 0, 0, 0, 1, 0, 0, 0, 16] ++
          bundleMarker ++ [0, 0, 0, 0, 0, 0, 0, 1]) =
          .error (Wire.Decode.depthFailure ({ maxDepth := 1 } : Codec).maxDepth o path)) :=
  ⟨by decide, decode_under_lower_limit _ _ (by decide) _⟩

end SoundControl
