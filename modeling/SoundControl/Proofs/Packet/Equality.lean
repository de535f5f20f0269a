import SoundControl.Document.Node
import Mathlib.Data.List.Forall2

/-! # Packet equality

Two packets are equal exactly when the reader would build them alike (`Packet.equal_iff_asRead`),
and encoding, text and document ignore how a slice is built at every depth, so nothing computed
from a packet tells equal packets apart (`observations_of_equal`). -/

namespace SoundControl

/-! ## Equality is equality of packets as read -/

theorem Argument.same_iff (a b : Option Argument) :
    Argument.same a b = true ↔ a.map Argument.asRead = b.map Argument.asRead := by
  -- unfolded to its match once: the equation lemmas of the catch-all case recurse too deep
  unfold Argument.same
  rcases a with _ | (_ | _ | _ | _) <;> rcases b with _ | (_ | _ | _ | _) <;>
    simp [Argument.asRead]

/-- Lists of the same length whose items a test accepts pairwise, where the test holds exactly of
items with one image under `f`, are the lists with one image under `f`. -/
theorem zip_all_iff_map_eq {α β : Type} {r : α → α → Bool} {f : α → β}
    (hr : ∀ a b, r a b = true ↔ f a = f b) (xs ys : List α) :
    xs.length = ys.length ∧ ((xs.zip ys).all fun (a, b) => r a b) = true ↔
      xs.map f = ys.map f := by
  have hf : List.Forall₂ (fun a b => r a b = true) xs ys ↔ xs.map f = ys.map f := by
    rw [← List.forall₂_eq_eq_eq, List.forall₂_map_left_iff, List.forall₂_map_right_iff]
    simp only [hr]
  rw [← hf, List.forall₂_iff_zip, List.all_eq_true]
  simp

theorem Message.equals_some_iff (m n : Message) :
    Message.equals (some m) (some n) = true ↔ m.asRead = n.asRead := by
  simp only [Message.equals, Bool.and_assoc, Bool.and_eq_true, beq_iff_eq,
    zip_all_iff_map_eq Argument.same_iff, Message.asRead, Message.mk.injEq, Slice.ofItems_inj]

/-- A nil blob equals an empty one. -/
example : Message.equals (some ⟨[0x2F], .ofList [some (.blob .nil), none]⟩)
    (some ⟨[0x2F], .ofList [some (.blob (.ofList [])), none]⟩) = true := by
  decide

mutual

/-- Two packets are equal exactly when the reader would build them alike. -/
theorem Packet.equal_iff_asRead : (p q : Packet) → (p.equal q = true ↔ p.asRead = q.asRead)
  | .absent, q => by cases q <;> simp [Packet.equal, Packet.asRead]
  | .nullMessage, q => by cases q <;> simp [Packet.equal, Packet.asRead]
  | .nullBundle, q => by cases q <;> simp [Packet.equal, Packet.asRead]
  | .message m, q => by
    cases q with
    | message n => simp [Packet.equal, Packet.asRead, Message.equals_some_iff]
    | _ => simp [Packet.equal, Packet.asRead]
  | .bundle t es, q => by
    cases q with
    | bundle u fs => simp [Packet.equal, Packet.asRead, Packet.equalAll_iff_asRead es fs]
    | _ => simp [Packet.equal, Packet.asRead]

/-- Two element lists are pairwise equal exactly when the reader would build them alike. -/
theorem Packet.equalAll_iff_asRead : (ps qs : List Packet) →
    (Packet.equalAll ps qs = true ↔ Packet.asReadAll ps = Packet.asReadAll qs)
  | [], qs => by cases qs <;> simp [Packet.equalAll, Packet.asReadAll]
  | p :: ps, qs => by
    cases qs with
    | nil => simp [Packet.equalAll, Packet.asReadAll]
    | cons q qs =>
      simp [Packet.equalAll, Packet.asReadAll, Packet.equal_iff_asRead p q,
        Packet.equalAll_iff_asRead ps qs]

end

theorem Argument.asRead_asRead (a : Argument) : a.asRead.asRead = a.asRead := by
  cases a <;> rfl

theorem Message.asRead_asRead (m : Message) : m.asRead.asRead = m.asRead := by
  simp [Message.asRead, Option.map_map, Function.comp_def, Argument.asRead_asRead]

mutual

/-- Reading builds slices the way the reader would build them again. -/
theorem Packet.asRead_asRead : (p : Packet) → p.asRead.asRead = p.asRead
  | .absent => rfl
  | .nullMessage => rfl
  | .nullBundle => rfl
  | .message m => by simp only [Packet.asRead, Message.asRead_asRead]
  | .bundle t els => by simp only [Packet.asRead, Packet.asReadAll_asRead els]

theorem Packet.asReadAll_asRead : (ps : List Packet) →
    Packet.asReadAll (Packet.asReadAll ps) = Packet.asReadAll ps
  | [] => rfl
  | p :: ps => by
    simp only [Packet.asReadAll, Packet.asRead_asRead p, Packet.asReadAll_asRead ps]

end

/-- A packet as the reader would build it equals the packet. -/
theorem Packet.asRead_equal (p : Packet) : p.asRead.equal p = true :=
  (Packet.equal_iff_asRead p.asRead p).mpr (Packet.asRead_asRead p)

/-! ## Message and bundle equality -/

/-- A test that holds exactly of values with one image under `f` is an equivalence relation. -/
theorem equivalence_of_iff_map_eq {α β : Type} {r : α → α → Bool} (f : α → β)
    (hr : ∀ a b, r a b = true ↔ f a = f b) : Equivalence fun a b => r a b = true := by
  have h : (fun a b => r a b = true) = InvImage (· = ·) f :=
    funext₂ fun a b => propext (hr a b)
  rw [h]
  exact InvImage.equivalence _ f eq_equivalence

/-- Pairwise equality of element lists is as many elements, pairwise equal. -/
theorem Packet.equalAll_eq_zip : (ps qs : List Packet) →
    Packet.equalAll ps qs = (ps.length == qs.length && (ps.zip qs).all fun (p, q) => p.equal q)
  | [], [] => rfl
  | [], _ :: _ => rfl
  | _ :: _, [] => rfl
  | p :: ps, q :: qs => by
    rw [Packet.equalAll, Packet.equalAll_eq_zip ps qs]
    simp [Bool.and_left_comm]

theorem Message.equals_eq_equal (m n : Option Message) :
    Message.equals m n = (Packet.ofMessageRef m).equal (Packet.ofMessageRef n) := by
  rcases m with _ | m <;> rcases n with _ | n <;>
    simp [Message.equals, Packet.ofMessageRef, Packet.equal]

theorem Bundle.equals_eq_equal (b c : Option Bundle) :
    Bundle.equals b c = (Packet.ofBundleRef b).equal (Packet.ofBundleRef c) := by
  rcases b with _ | ⟨t, ps⟩ <;> rcases c with _ | ⟨u, qs⟩
  case some.some =>
    simp [Bundle.equals, Packet.ofBundleRef, Packet.equal, Packet.equalAll_eq_zip, Bool.and_assoc]
  all_goals simp [Bundle.equals, Packet.ofBundleRef, Packet.equal]

/-- Packet, message and bundle equality are equivalence relations on packets of any depth and on
references of every kind, and message and bundle equality agree with packet equality on the
packets that their references stand for. -/
theorem equalities_are_equivalences :
    Equivalence (fun p q : Packet => p.equal q = true) ∧
    Equivalence (fun m n : Option Message => Message.equals m n = true) ∧
    Equivalence (fun b c : Option Bundle => Bundle.equals b c = true) ∧
    (∀ m n, Message.equals m n = (Packet.ofMessageRef m).equal (Packet.ofMessageRef n)) ∧
    (∀ b c, Bundle.equals b c = (Packet.ofBundleRef b).equal (Packet.ofBundleRef c)) := by
  refine ⟨equivalence_of_iff_map_eq Packet.asRead Packet.equal_iff_asRead, ?_, ?_,
    Message.equals_eq_equal, Bundle.equals_eq_equal⟩
  · refine equivalence_of_iff_map_eq (fun m => (Packet.ofMessageRef m).asRead) fun m n => ?_
    rw [Message.equals_eq_equal, Packet.equal_iff_asRead]
  · refine equivalence_of_iff_map_eq (fun b => (Packet.ofBundleRef b).asRead) fun b c => ?_
    rw [Bundle.equals_eq_equal, Packet.equal_iff_asRead]

/-! ## Observations ignore nil slices -/

theorem Argument.tag_asRead (a : Argument) : a.asRead.tag = a.tag := by
  cases a <;> rfl

theorem Argument.text_asRead (a : Argument) : a.asRead.text = a.text := by
  cases a <;> rfl

theorem Argument.formatText_asRead (a : Option Argument) :
    Argument.formatText (a.map Argument.asRead) = Argument.formatText a := by
  rcases a with _ | (_ | _ | _ | _) <;> rfl

theorem Wire.Encode.payload_asRead (a : Argument) :
    Wire.Encode.payload a.asRead = Wire.Encode.payload a := by
  cases a <;> rfl

theorem Wire.Encode.typeTags_asRead (args : List (Option Argument)) :
    Wire.Encode.typeTags (args.map (Option.map Argument.asRead)) = Wire.Encode.typeTags args := by
  suffices h : ∀ i, Wire.Encode.tagLetters i (args.map (Option.map Argument.asRead)) =
      Wire.Encode.tagLetters i args by
    simp only [Wire.Encode.typeTags, h]
  induction args with
  | nil => intro i; rfl
  | cons a rest ih =>
    intro i
    cases a with
    | none => rfl
    | some a => simp only [List.map_cons, Option.map_some, Wire.Encode.tagLetters, ih,
        Argument.tag_asRead]

theorem Wire.Encode.payloads_asRead (i : Nat) (args : List (Option Argument)) :
    Wire.Encode.payloads i (args.map (Option.map Argument.asRead)) =
      Wire.Encode.payloads i args := by
  induction args generalizing i with
  | nil => rfl
  | cons a rest ih =>
    cases a with
    | none => rfl
    | some a => simp only [List.map_cons, Option.map_some, Wire.Encode.payloads, ih,
        Wire.Encode.payload_asRead]

theorem Message.typeTags_asRead (m : Message) : m.asRead.typeTags = m.typeTags := by
  simp only [Message.typeTags, Message.args_asRead, Wire.Encode.typeTags_asRead]

theorem Wire.Encode.message_asRead (m : Message) :
    Wire.Encode.message m.asRead = Wire.Encode.message m := by
  simp only [Wire.Encode.message, Message.args_asRead, Message.address_asRead,
    Wire.Encode.typeTags_asRead, Wire.Encode.payloads_asRead]

theorem Message.line_asRead (m : Message) : m.asRead.line = m.line := by
  simp only [Message.line, Message.typeTags_asRead, Message.args_asRead, Message.address_asRead,
    List.map_map]
  split
  · rfl
  · congr 5
    funext a
    cases a <;> simp [Argument.text_asRead]

mutual

/-- The encoder writes a packet as the reader would build it, at every depth. -/
theorem Wire.Encode.packet_asRead (limit depth : Nat) : (p : Packet) →
    Wire.Encode.packet limit depth p.asRead = Wire.Encode.packet limit depth p
  | .absent => rfl
  | .nullMessage => rfl
  | .nullBundle => rfl
  | .message m => by
    simp only [Packet.asRead, Wire.Encode.packet, Wire.Encode.message_asRead]
  | .bundle t els => by
    simp only [Packet.asRead, Wire.Encode.packet, Wire.Encode.elements_asRead]

theorem Wire.Encode.elements_asRead (limit depth i : Nat) : (ps : List Packet) →
    Wire.Encode.elements limit depth i (Packet.asReadAll ps) =
      Wire.Encode.elements limit depth i ps
  | [] => rfl
  | p :: rest => by
    have hp := Wire.Encode.packet_asRead limit depth p
    have hrest := Wire.Encode.elements_asRead limit depth (i + 1) rest
    -- an absent element fails before it is written; any other keeps its kind as read
    rcases p with _ | _ | _ | m | ⟨t, els⟩ <;>
      simp only [Packet.asReadAll, Packet.asRead] at hp ⊢ <;>
      simp only [Wire.Encode.elements, hp, hrest]

end

mutual

/-- The text of a packet is that of the packet as the reader would build it, at every depth. -/
theorem Packet.textAt_asRead (level : Nat) : (p : Packet) →
    p.asRead.textAt level = p.textAt level
  | .absent => rfl
  | .nullMessage => rfl
  | .nullBundle => rfl
  | .message m => by simp only [Packet.asRead, Packet.textAt, Message.line_asRead]
  | .bundle t els => by
    have hlen : (Packet.asReadAll els).length = els.length := by
      rw [Packet.asReadAll_eq_map, List.length_map]
    simp only [Packet.asRead, Packet.textAt, Packet.textAll_asRead, hlen]

theorem Packet.textAll_asRead (level : Nat) : (ps : List Packet) →
    Packet.textAll level (Packet.asReadAll ps) = Packet.textAll level ps
  | [] => rfl
  | p :: rest => by
    simp only [Packet.asReadAll, Packet.textAll, Packet.textAt_asRead, Packet.textAll_asRead]

end

mutual

/-- The document of a packet is that of the packet as the reader would build it, at every
depth. -/
theorem Node.ofPacket_asRead : (p : Packet) → Node.ofPacket p.asRead = Node.ofPacket p
  | .absent => rfl
  | .nullMessage => rfl
  | .nullBundle => rfl
  | .message m => by
    simp [Packet.asRead, Node.ofPacket, Function.comp_def, Argument.formatText_asRead]
  | .bundle t els => by simp only [Packet.asRead, Node.ofPacket, Node.ofElements_asRead]

theorem Node.ofElements_asRead (i : Nat) : (ps : List Packet) →
    Node.ofElements i (Packet.asReadAll ps) = Node.ofElements i ps
  | [] => rfl
  | p :: rest => by
    simp only [Packet.asReadAll, Node.ofElements, Node.ofPacket_asRead, Node.ofElements_asRead]

end

/-- Whatever is computed alike from a packet and from the packet as the reader would build it is
computed alike from equal packets. -/
theorem Packet.congr_of_asRead {β : Type} {f : Packet → β} (hf : ∀ p, f p.asRead = f p)
    {p q : Packet} (h : p.equal q = true) : f p = f q :=
  calc f p = f p.asRead := (hf p).symm
    _ = f q.asRead := by rw [(Packet.equal_iff_asRead p q).mp h]
    _ = f q := hf q

/-- Equal packets encode to the same bytes or fail with the same error under every codec, and
have the same text and the same document node, or fail to have one alike. -/
theorem observations_of_equal {p q : Packet} (h : p.equal q = true) :
    (∀ c : Codec, c.encode p = c.encode q) ∧ p.text = q.text ∧
      Node.ofPacket p = Node.ofPacket q :=
  ⟨fun c => Packet.congr_of_asRead (Wire.Encode.packet_asRead c.maxDepth 0) h,
    Packet.congr_of_asRead (Packet.textAt_asRead 0) h,
    Packet.congr_of_asRead Node.ofPacket_asRead h⟩

/-- A bundle whose first message holds a nil blob and whose second has a nil argument slice
equals, and is observed alike to, the bundle with an empty blob and an empty slice instead,
though the two are different packets. -/
theorem observations_of_equal_sample :
    (Packet.bundle ⟨7⟩ [.message ⟨[0x2F], .ofList [some (.blob .nil)]⟩,
        .message ⟨[0x2F], .nil⟩]).equal
      (.bundle ⟨7⟩ [.message ⟨[0x2F], .ofList [some (.blob (.ofList []))]⟩,
        .message ⟨[0x2F], .ofList []⟩]) = true ∧
    Packet.bundle ⟨7⟩ [.message ⟨[0x2F], .ofList [some (.blob .nil)]⟩,
        .message ⟨[0x2F], .nil⟩] ≠
      .bundle ⟨7⟩ [.message ⟨[0x2F], .ofList [some (.blob (.ofList []))]⟩,
        .message ⟨[0x2F], .ofList []⟩] ∧
    ∀ c : Codec,
      c.encode (.bundle ⟨7⟩ [.message ⟨[0x2F], .ofList [some (.blob .nil)]⟩,
        .message ⟨[0x2F], .nil⟩]) =
      c.encode (.bundle ⟨7⟩ [.message ⟨[0x2F], .ofList [some (.blob (.ofList []))]⟩,
        .message ⟨[0x2F], .ofList []⟩]) := by
  have h : (Packet.bundle ⟨7⟩ [.message ⟨[0x2F], .ofList [some (.blob .nil)]⟩,
        .message ⟨[0x2F], .nil⟩]).equal
      (.bundle ⟨7⟩ [.message ⟨[0x2F], .ofList [some (.blob (.ofList []))]⟩,
        .message ⟨[0x2F], .ofList []⟩]) = true := by
    decide
  exact ⟨h, by simp, (observations_of_equal h).1⟩

end SoundControl
