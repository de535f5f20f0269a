import SoundControl.Proofs.Number.FloatText
import SoundControl.Document.Node

/-! # Documents read back as their packets

A packet of messages and bundles with every argument slot filled comes back from its document
with its slices as a reader builds them and every NaN as the quiet NaN (`toPacket_ofPacket`). -/

namespace SoundControl

/-! ## NaNs -/

/-- The NaN that the text `NaN` reads as: positive and quiet, with no other payload bit. -/
def quietNaN32 : UInt32 := 0x7FC00000

namespace Argument

/-- An argument as it comes back from its text: itself, except that a NaN becomes the quiet NaN. -/
def settleNaN : Argument → Argument
  | .float32 bits => .float32 (if isNaN32 bits then quietNaN32 else bits)
  | a => a

end Argument

mutual

/-- A packet as it comes back from its document: every NaN argument becomes the quiet NaN, and
the argument slots are built by appending them one by one. -/
def Packet.settleNaNs : Packet → Packet
  | .message m => .message ⟨m.address, .ofItems (m.args.map (Option.map Argument.settleNaN))⟩
  | .bundle t els => .bundle t (Packet.settleNaNsAll els)
  | p => p

/-- Element packets as they come back from their documents. -/
def Packet.settleNaNsAll : List Packet → List Packet
  | [] => []
  | p :: ps => p.settleNaNs :: Packet.settleNaNsAll ps

end

/-- Every node of a packet is a message or a bundle, and every message has the property `P`. -/
inductive Packet.All (P : Message → Prop) : Packet → Prop where
  | message {m : Message} : P m → Packet.All P (.message m)
  | bundle {t : Timetag} {els : List Packet} :
      (∀ q ∈ els, Packet.All P q) → Packet.All P (.bundle t els)

/-- A message that a document can hold: all its argument slots are filled. -/
def Message.Documentable (m : Message) : Prop :=
  none ∉ m.args

instance : DecidablePred Message.Documentable :=
  fun m => inferInstanceAs (Decidable (none ∉ m.args))

/-! ## Arguments -/

theorem singleText_of_isNaN32 {bits : UInt32} (h : isNaN32 bits = true) :
    singleText bits = "NaN" := by
  unfold isNaN32 at h
  unfold singleText floatText
  split at h <;> simp_all

/-- The text of an argument reads back as the argument as a reader builds it, a NaN as the quiet
NaN. -/
theorem Argument.parseText_formatText (a : Argument) :
    Argument.parseText (Argument.formatText (some a)) = .ok a.asRead.settleNaN := by
  cases a with
  | int32 v =>
    have hi : Literal.integer 32 (Utf8.ofString v.toInt.repr) = .ok v.toInt :=
      Literal.integer_toString v
    rw [formatText, Utf8.ofString_append, show Utf8.ofString "i:" = [0x69, 0x3A] from rfl]
    simp [parseText, hi, settleNaN, asRead]
  | float32 bits =>
    rw [formatText, Utf8.ofString_append, show Utf8.ofString "f:" = [0x66, 0x3A] from rfl]
    cases hn : isNaN32 bits with
    | true =>
      -- the text is `NaN`, which reads as the quiet NaN
      have hq : Literal.float BinaryFormat.single (Utf8.ofString "NaN") = .ok quietNaN32.toNat :=
        rfl
      simp [parseText, singleText_of_isNaN32 hn, hq, settleNaN, hn, asRead]
    | false =>
      simp [parseText, float_singleText bits hn, settleNaN, hn, asRead]
  | string s =>
    rw [formatText, show Utf8.ofString "s:" = [0x73, 0x3A] from rfl]
    simp [parseText, settleNaN, asRead]
  | blob data =>
    rw [formatText, Utf8.ofString_append, show Utf8.ofString "b:" = [0x62, 0x3A] from rfl]
    simp [parseText, Hex.decode_ofString_encode, settleNaN, asRead]

/-- Filled argument slots give their arguments back from their texts, as a reader builds them
and with NaNs settled. -/
theorem MessageNode.arguments_formatText (address : Bytes) (i : Nat) (as : List Argument) :
    MessageNode.arguments address i ((as.map some).map Argument.formatText) =
      .ok (as.map fun a => a.asRead.settleNaN) := by
  induction as generalizing i with
  | nil => rfl
  | cons a as ih =>
    simp only [List.map_cons, MessageNode.arguments, Argument.parseText_formatText a]
    rw [ih (i + 1)]
    rfl

/-! ## Packets -/

theorem eq_map_some_of_none_not_mem {args : List (Option Argument)} (h : none ∉ args) :
    ∃ as : List Argument, args = as.map some := by
  induction args with
  | nil => exact ⟨[], rfl⟩
  | cons a rest ih =>
    obtain ⟨as, has⟩ := ih (fun hn => h (List.mem_cons_of_mem _ hn))
    cases a with
    | none => exact absurd List.mem_cons_self h
    | some a => exact ⟨a :: as, by rw [has]; rfl⟩

/-- A documentable message comes back from its node with its address, and its arguments as a
reader builds them with NaNs settled. -/
theorem Node.toPacket_ofPacket_message {m : Message} (hm : m.Documentable) :
    ∃ n, Node.ofPacket (.message m) = .ok n ∧
      n.toPacket = .ok (Packet.message m).asRead.settleNaNs := by
  obtain ⟨as, has⟩ := eq_map_some_of_none_not_mem hm
  refine ⟨_, rfl, ?_⟩
  have hargs := MessageNode.arguments_formatText m.address 0 as
  rw [← has] at hargs
  simp only [Node.toPacket, hargs]
  simp [Except.map, Packet.settleNaNs, Packet.asRead, Message.asRead, has, Function.comp_def]

/-- Elements whose nodes each read back give their packets back, as a reader builds them and
with NaNs settled. -/
theorem Node.elementsToPackets_ofElements (i : Nat) (els : List Packet)
    (ih : ∀ q ∈ els, ∃ n, Node.ofPacket q = .ok n ∧ n.toPacket = .ok q.asRead.settleNaNs) :
    ∃ ns, Node.ofElements i els = .ok ns ∧
      Node.elementsToPackets i ns = .ok (Packet.settleNaNsAll (Packet.asReadAll els)) := by
  induction els generalizing i with
  | nil => exact ⟨[], rfl, rfl⟩
  | cons q rest ihs =>
    obtain ⟨n, hn, hq⟩ := ih q List.mem_cons_self
    obtain ⟨ns, hns, hps⟩ := ihs (i + 1) (fun q' h => ih q' (List.mem_cons_of_mem _ h))
    refine ⟨n :: ns, ?_, ?_⟩
    · simp [Node.ofElements, hn, hns, Except.map]
    · simp [Node.elementsToPackets, hq, hps, Packet.settleNaNsAll, Packet.asReadAll, Except.map]

/-- A packet of messages and bundles, each message documentable, comes back from its document
node: with the same shape, time tags and addresses, and the same arguments, except that its
slices are as a reader builds them and a NaN comes back as the quiet NaN. -/
theorem toPacket_ofPacket (p : Packet) (hp : p.All Message.Documentable) :
    ∃ n, Node.ofPacket p = .ok n ∧ n.toPacket = .ok p.asRead.settleNaNs := by
  -- induction on the packet tree: a message by its arguments, a bundle by its elements
  induction hp with
  | message hm => exact Node.toPacket_ofPacket_message hm
  | @bundle t els _ ih =>
    obtain ⟨ns, hns, hps⟩ := Node.elementsToPackets_ofElements 0 els ih
    refine ⟨.mk none (some (.mk t.bits ns)), by simp [Node.ofPacket, hns, Except.map], ?_⟩
    simp [Node.toPacket, hps, Packet.settleNaNs, Packet.asRead, Except.map]

/-- A bundle holding a message with an address that is not UTF-8 and has a colon, the least
integer, a half, a NaN with a payload, a string with a colon and a blob comes back from its
document, the NaN as the quiet NaN. -/
theorem toPacket_ofPacket_sample :
    (Packet.bundle ⟨5⟩ [.message ⟨[0x2F, 0xFF, 0x3A], .ofList [some (.int32 (-2147483648)),
      some (.float32 0x3F000000), some (.float32 0x7FC00001), some (.string [0x61, 0x3A, 0x62]),
      some (.blob (.ofList [0xDE, 0xAD]))]⟩]).All Message.Documentable ∧
    ∃ n, Node.ofPacket (.bundle ⟨5⟩ [.message ⟨[0x2F, 0xFF, 0x3A], .ofList [some (.int32 (-2147483648)),
      some (.float32 0x3F000000), some (.float32 0x7FC00001), some (.string [0x61, 0x3A, 0x62]),
      some (.blob (.ofList [0xDE, 0xAD]))]⟩]) = .ok n ∧
    n.toPacket = .ok (.bundle ⟨5⟩ [.message ⟨[0x2F, 0xFF, 0x3A], .ofList [some (.int32 (-2147483648)),
      some (.float32 0x3F000000), some (.float32 0x7FC00000), some (.string [0x61, 0x3A, 0x62]),
      some (.blob (.ofList [0xDE, 0xAD]))]⟩]) := by
  have hp : (Packet.bundle ⟨5⟩ [.message ⟨[0x2F, 0xFF, 0x3A], .ofList [some (.int32 (-2147483648)),
      some (.float32 0x3F000000), some (.float32 0x7FC00001), some (.string [0x61, 0x3A, 0x62]),
      some (.blob (.ofList [0xDE, 0xAD]))]⟩]).All Message.Documentable := by
    refine .bundle fun q hq => ?_
    rw [List.mem_singleton] at hq
    subst hq
    exact .message (by decide)
  obtain ⟨n, h1, h2⟩ := toPacket_ofPacket _ hp
  exact ⟨hp, n, h1, by rw [h2]; rfl⟩

end SoundControl
