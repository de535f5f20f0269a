import SoundControl.Editing
import SoundControl.Proofs.Wire.Canonical
import SoundControl.Proofs.Wire.Failures

/-! # Refused changes leave the receiver as it was

Every change in place makes its checks before it writes, so a refused change writes nothing, and
reading a message or a bundle into a receiver gives exactly what a fresh read gives
(`edits_keep_receiver_on_failure`). -/

namespace SoundControl

/-! ## Running a change -/

section Run

variable {σ α β : Type}

@[simp] theorem Change.run_liftExcept_error (e : Error) (f : α → Change σ β) (s : σ) :
    (liftExcept (Except.error e : Except Error α) >>= f : Change σ β).run s = .error e s := rfl

@[simp] theorem Change.run_liftExcept_ok (a : α) (f : α → Change σ β) (s : σ) :
    (liftExcept (Except.ok a : Except Error α) >>= f : Change σ β).run s = (f a).run s := rfl

theorem Change.run_bind_of_ok {x : Change σ α} {f : α → Change σ β} {s s' : σ} {a : α}
    (h : x.run s = .ok a s') : (x >>= f).run s = (f a).run s' := by
  simp only [EStateM.run, bind, EStateM.bind] at h ⊢
  rw [h]

theorem Change.run_bind_of_error {x : Change σ α} {f : α → Change σ β} {s s' : σ} {e : Error}
    (h : x.run s = .error e s') : (x >>= f).run s = .error e s' := by
  simp only [EStateM.run, bind, EStateM.bind] at h ⊢
  rw [h]

theorem Change.apply_of_run_ok {c : Change σ Unit} {s s' : σ} (h : c.run s = .ok () s') :
    c.apply s = (s', none) := by
  rw [Change.apply, h]

theorem Change.apply_of_run_error {c : Change σ Unit} {s s' : σ} {e : Error}
    (h : c.run s = .error e s') : c.apply s = (s', some e) := by
  rw [Change.apply, h]

end Run

/-! ## Appending arguments -/

namespace Message

/-- Checking slots that are all filled passes and writes nothing. -/
theorem checkSlots_of_filled (m : Message) :
    ∀ (i : Nat) (args : List (Option Argument)), none ∉ args →
      (checkSlots i args).run m = .ok () m
  | _, [], _ => rfl
  | _, none :: _, h => absurd List.mem_cons_self h
  | i, some _ :: rest, h => checkSlots_of_filled m (i + 1) rest fun hr => h (.tail _ hr)

/-- Checking slots among which one is empty fails at the first empty one, with the index it would
have had, and writes nothing. -/
theorem checkSlots_of_mem (m : Message) :
    ∀ (i : Nat) (args : List (Option Argument)), none ∈ args →
      ∃ j, args[j]? = some none ∧ (∀ k < j, args[k]? ≠ some none) ∧
        (checkSlots i args).run m =
          .error { appendError "nil argument" with argument := some (m.args.length + i + j) } m
  | _, [], h => absurd h List.not_mem_nil
  | i, none :: _, _ => ⟨0, rfl, fun _ hk => absurd hk (Nat.not_lt_zero _), rfl⟩
  | i, some a :: rest, h => by
    -- a filled slot passes, and the first empty one is one further on
    have hr : none ∈ rest := by
      rcases List.mem_cons.mp h with h | h
      · cases h
      · exact h
    obtain ⟨j, hj, hlt, hrun⟩ := checkSlots_of_mem m (i + 1) rest hr
    refine ⟨j + 1, hj, fun k hk => ?_, ?_⟩
    · cases k with
      | zero => simp
      | succ k => exact hlt k (by omega)
    · rw [show m.args.length + i + (j + 1) = m.args.length + (i + 1) + j by omega]
      exact hrun

/-- Appending slots among which one is empty is refused, names the index the first empty slot
would have had, and leaves the message as it was. -/
theorem edit_append_of_mem (m : Message) {args : List (Option Argument)} (h : none ∈ args) :
    ∃ i, args[i]? = some none ∧ (∀ j < i, args[j]? ≠ some none) ∧
      m.edit (.append args) =
        (m, some { appendError "nil argument" with argument := some (m.args.length + i) }) := by
  obtain ⟨j, hj, hlt, hrun⟩ := checkSlots_of_mem m 0 args h
  refine ⟨j, hj, hlt, ?_⟩
  rw [Nat.add_zero] at hrun
  exact Change.apply_of_run_error (Change.run_bind_of_error hrun)

/-- Appending slots that are all filled adds them after the old ones. -/
theorem edit_append_of_not_mem (m : Message) {args : List (Option Argument)} (h : none ∉ args) :
    m.edit (.append args) = ({ m with arguments := m.arguments.append args }, none) :=
  Change.apply_of_run_ok (Change.run_bind_of_ok (checkSlots_of_filled m 0 args h))

end Message

/-! ## Reading into a receiver -/

namespace Message

/-- Reading a message into a receiver that a fresh read gives `m'` leaves `m'`, whatever the
receiver held: both of its fields are written. -/
theorem decode_run_of_ok {bs : Bytes} {m' : Message} (h : Message.ofBytes bs = .ok m')
    (m : Message) : (Message.decode bs).run m = .ok () m' := by
  obtain ⟨rest, ht, hta, hm⟩ := Wire.Decode.message_eq_ok.mp h
  simp only [Message.decode, ht, hta, Change.run_liftExcept_ok, ← hm]
  rfl

/-- Reading a message into a receiver fails where a fresh read fails, and then leaves the
receiver as it was: each of the three checks comes before both writes. -/
theorem decode_run_of_error {bs : Bytes} {e : Error} (h : Message.ofBytes bs = .error e)
    (m : Message) : (Message.decode bs).run m = .error e m := by
  simp only [Message.ofBytes, Wire.Decode.message] at h
  unfold Message.decode
  cases ht : Wire.Decode.text bs.length "address" bs with
  | error e' =>
    -- the address cannot be read
    simp only [ht, bind, Except.bind, Except.error.injEq] at h
    subst h
    rfl
  | ok v =>
    obtain ⟨address, rest⟩ := v
    simp only [Change.run_liftExcept_ok]
    cases hta : Wire.Decode.typedArguments bs.length rest with
    | error e' =>
      -- the type tag string or an argument cannot be read
      simp only [ht, hta, bind, Except.bind, Except.error.injEq] at h
      subst h
      rfl
    | ok w =>
      obtain ⟨args, rest'⟩ := w
      simp only [ht, hta, bind, Except.bind] at h
      simp only [Change.run_liftExcept_ok]
      -- the arguments are read: only bytes after them can refuse the message
      by_cases hr : rest'.isEmpty = true
      · rw [if_pos hr] at h
        cases h
      · rw [if_neg hr, Except.error.injEq] at h
        subst h
        rw [if_neg hr]
        rfl

end Message

namespace Assembly

/-- Reading a bundle into a receiver that a fresh read gives the bundle `t els` leaves that
bundle, whatever the receiver held: its time tag and elements are both written. -/
theorem decode_run_of_ok {bs : Bytes} {t : Timetag} {els : List Packet}
    (h : Packet.bundleOfBytes bs = .ok (.bundle t els)) (a : Assembly) :
    (Assembly.decode bs).run a = .ok () (Assembly.ofPacket t els) := by
  have hdepth : ¬ 1 > Codec.default.maxDepth := by decide
  rw [Packet.bundleOfBytes, Wire.Decode.bundle.eq_1, Nat.sub_self, if_neg hdepth] at h
  split_ifs at h with hlen hm
  split at h
  · -- every check passed, and the time tag and elements are those the fresh read gives
    rename_i x1 x2 x3 x4 x5 x6 x7 x8 rest hd
    obtain ⟨els', helts, heq⟩ := Except.map_eq_ok.mp h
    cases heq
    unfold Assembly.decode
    rw [if_neg hdepth, show Wire.Decode.take bs.length 8 "bundle marker" bs =
      .ok (bs.take 8, bs.drop 8) from if_pos (by omega), Change.run_liftExcept_ok]
    dsimp only
    rw [if_neg hm, hd]
    simp only [Wire.Decode.word64, Change.run_liftExcept_ok, helts]
    rfl
  · cases h

/-- Reading a bundle into a receiver fails where a fresh read fails, and then leaves the receiver
as it was: the level, the marker, the time tag and every element are checked before the
writes. -/
theorem decode_run_of_error {bs : Bytes} {e : Error} (h : Packet.bundleOfBytes bs = .error e)
    (a : Assembly) : (Assembly.decode bs).run a = .error e a := by
  have hdepth : ¬ 1 > Codec.default.maxDepth := by decide
  rw [Packet.bundleOfBytes, Wire.Decode.bundle.eq_1, Nat.sub_self, if_neg hdepth] at h
  unfold Assembly.decode
  rw [if_neg hdepth]
  dsimp only
  by_cases hlen : bs.length < 8
  · -- too short for a marker
    rw [if_pos hlen, Except.error.injEq] at h
    subst h
    rw [show Wire.Decode.take bs.length 8 "bundle marker" bs = .error _ from if_neg (by omega)]
    rfl
  rw [if_neg hlen] at h
  rw [show Wire.Decode.take bs.length 8 "bundle marker" bs = .ok (bs.take 8, bs.drop 8) from
    if_pos (by omega), Change.run_liftExcept_ok]
  dsimp only
  by_cases hm : (bs.take 8 != bundleMarker) = true
  · -- a wrong marker
    rw [if_pos hm, Except.error.injEq] at h
    subst h
    rw [if_pos hm]
    rfl
  rw [if_neg hm] at h
  rw [if_neg hm]
  split at h
  · -- the time tag is read: only an element can refuse the bundle
    rename_i x1 x2 x3 x4 x5 x6 x7 x8 rest hd
    rw [hd]
    simp only [Wire.Decode.word64, Change.run_liftExcept_ok]
    rw [Except.map_eq_error.mp h, Change.run_liftExcept_error]
  · -- too short for a time tag
    rename_i hmore
    rw [Except.error.injEq] at h
    subst h
    have hword : Wire.Decode.word64 bs.length "time tag" (bs.drop 8) =
        .error (Wire.Decode.shortError bs.length 8 "time tag" (bs.drop 8)) := by
      unfold Wire.Decode.word64
      split
      · rename_i hd
        exact absurd hd (hmore _ _ _ _ _ _ _ _ _)
      · rfl
    rw [hword, Change.run_liftExcept_error]

end Assembly

/-! ## Edits -/

namespace Message

/-- Reading a message in place either fails and keeps the message, or gives exactly what a fresh
read of the same bytes gives. -/
theorem edit_unmarshal (m : Message) (d : Bytes) {m' : Message} {r : Option Error}
    (h : m.edit (.unmarshal d) = (m', r)) :
    (r = none ∧ Message.ofBytes d = .ok m') ∨
      (∃ e, r = some e ∧ Message.ofBytes d = .error e ∧ m' = m) := by
  cases hd : Message.ofBytes d with
  | ok m'' =>
    rw [edit, MessageEdit.change, Change.apply_of_run_ok (decode_run_of_ok hd m)] at h
    obtain ⟨rfl, rfl⟩ := Prod.mk.inj h
    exact .inl ⟨rfl, rfl⟩
  | error e =>
    rw [edit, MessageEdit.change, Change.apply_of_run_error (decode_run_of_error hd m)] at h
    obtain ⟨rfl, rfl⟩ := Prod.mk.inj h
    exact .inr ⟨e, rfl, rfl, rfl⟩

end Message

namespace Assembly

/-- Appending is refused exactly for an absent packet and references that point nowhere, and
then leaves the bundle as it was; any other packet is added after the old elements. -/
theorem edit_append (a : Assembly) (p : Packet) :
    ((p = .absent ∨ p = .nullMessage ∨ p = .nullBundle) →
      ∃ e, a.edit (.append p) = (a, some e)) ∧
    (¬(p = .absent ∨ p = .nullMessage ∨ p = .nullBundle) →
      a.edit (.append p) = ({ a with members := a.members ++ [.packet p] }, none)) := by
  cases p with
  | absent => exact ⟨fun _ => ⟨_, rfl⟩, fun h => absurd (.inl rfl) h⟩
  | nullMessage => exact ⟨fun _ => ⟨_, rfl⟩, fun h => absurd (.inr (.inl rfl)) h⟩
  | nullBundle => exact ⟨fun _ => ⟨_, rfl⟩, fun h => absurd (.inr (.inr rfl)) h⟩
  | message m => exact ⟨by simp, fun _ => rfl⟩
  | bundle t els => exact ⟨by simp, fun _ => rfl⟩

/-- Reading a bundle in place either fails and keeps the bundle, or replaces its time tag and all
its elements by those a fresh read of the same bytes gives. -/
theorem edit_unmarshal (a : Assembly) (d : Bytes) {a' : Assembly} {r : Option Error}
    (h : a.edit (.unmarshal d) = (a', r)) :
    (r = none ∧ ∃ t els, Packet.bundleOfBytes d = .ok (.bundle t els) ∧
        a' = Assembly.ofPacket t els) ∨
      (∃ e, r = some e ∧ Packet.bundleOfBytes d = .error e ∧ a' = a) := by
  cases hd : Packet.bundleOfBytes d with
  | ok p =>
    -- a successful read gives a bundle, so its time tag and elements replace the old ones
    obtain ⟨t, els, rfl⟩ := Wire.Decode.bundle_eq_ok hd
    rw [edit, BundleEdit.change, Change.apply_of_run_ok (decode_run_of_ok hd a)] at h
    obtain ⟨rfl, rfl⟩ := Prod.mk.inj h
    exact .inl ⟨rfl, t, els, rfl, rfl⟩
  | error e =>
    rw [edit, BundleEdit.change, Change.apply_of_run_error (decode_run_of_error hd a)] at h
    obtain ⟨rfl, rfl⟩ := Prod.mk.inj h
    exact .inr ⟨e, rfl, rfl, rfl⟩

end Assembly

/-- Changes in place are all or nothing: reading a message or a bundle from its wire form either
fails and leaves the receiver as it was, or replaces all its contents by what a fresh read gives;
appending arguments fails exactly when one is an empty slot, names the index the first one would
have had and keeps the message, and otherwise adds them all; appending to a bundle fails exactly
for an absent packet or a reference that points nowhere and then keeps the bundle. -/
theorem edits_keep_receiver_on_failure :
    (∀ (m : Message) (d : Bytes) (m' : Message) (r : Option Error),
      m.edit (.unmarshal d) = (m', r) →
        (r = none ∧ Message.ofBytes d = .ok m') ∨
          (∃ e, r = some e ∧ Message.ofBytes d = .error e ∧ m' = m)) ∧
    (∀ (a : Assembly) (d : Bytes) (a' : Assembly) (r : Option Error),
      a.edit (.unmarshal d) = (a', r) →
        (r = none ∧ ∃ t els, Packet.bundleOfBytes d = .ok (.bundle t els) ∧
            a' = Assembly.ofPacket t els) ∨
          (∃ e, r = some e ∧ Packet.bundleOfBytes d = .error e ∧ a' = a)) ∧
    (∀ (m : Message) (args : List (Option Argument)),
      (none ∈ args → ∃ i, args[i]? = some none ∧ (∀ j < i, args[j]? ≠ some none) ∧
        m.edit (.append args) =
          (m, some { appendError "nil argument" with argument := some (m.args.length + i) })) ∧
      (none ∉ args →
        m.edit (.append args) = ({ m with arguments := m.arguments.append args }, none))) ∧
    (∀ (a : Assembly) (p : Packet),
      ((p = .absent ∨ p = .nullMessage ∨ p = .nullBundle) →
        ∃ e, a.edit (.append p) = (a, some e)) ∧
      (¬(p = .absent ∨ p = .nullMessage ∨ p = .nullBundle) →
        a.edit (.append p) = ({ a with members := a.members ++ [.packet p] }, none))) :=
  ⟨fun m d _ _ h => m.edit_unmarshal d h, fun a d _ _ h => a.edit_unmarshal d h,
    fun m _ => ⟨m.edit_append_of_mem, m.edit_append_of_not_mem⟩, Assembly.edit_append⟩

end SoundControl
