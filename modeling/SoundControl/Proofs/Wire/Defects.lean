import SoundControl.Proofs.Wire.Equations

/-! # Why writing fails

Writing fails exactly when the packet's list of defects, `Packet.flaws`, is not empty, and then
reports its first entry (`encode_reports_first_flaw`). -/

namespace SoundControl

/-- A reason why a packet cannot be written: a packet reference that is absent or points
nowhere, an empty argument slot, a string with a NUL byte or invalid UTF-8, a size beyond a size
field, or a bundle nested deeper than the limit. -/
inductive Defect where
  | absentPacket
  | absentElement
  | nullMessage
  | nullBundle
  | emptySlot
  | nulByte (s : Bytes)
  | invalidUtf8 (s : Bytes)
  | tooLarge (what : String) (size : Nat)
  | tooDeep (limit : Nat)
  deriving DecidableEq, Repr

namespace Defect

def fault : Defect → Fault
  | .nulByte _ | .invalidUtf8 _ => .invalidString
  | .tooLarge _ _ => .tooLarge
  | .tooDeep _ => .depthExceeded
  | _ => .unsupportedType

def detail : Defect → String
  | .absentPacket => "packet <nil>"
  | .absentElement => "nil element"
  | .nullMessage => "packet *osc.Message"
  | .nullBundle => "packet *osc.Bundle"
  | .emptySlot => "nil argument"
  | .nulByte s => "NUL byte in " ++ Quoted.quote s
  | .invalidUtf8 s => "invalid UTF-8 in " ++ Quoted.quote s
  | .tooLarge what n => what ++ " of " ++ toString n ++ " bytes"
  | .tooDeep limit => "limit " ++ toString limit

/-- The defect of a size of `n` bytes, if a size field cannot hold it. -/
def ofSize (what : String) (n : Nat) : List Defect :=
  if Wire.Encode.maxSize < n then [.tooLarge what n] else []

/-- The defects of a string, in the order they are looked for: a NUL byte, invalid UTF-8, its
size. -/
def ofString (s : Bytes) : List Defect :=
  (if 0 ∈ s then [.nulByte s] else []) ++ (if Utf8.valid s then [] else [.invalidUtf8 s]) ++
    ofSize "string" s.length

def ofEmpty : Option Argument → List Defect
  | none => [.emptySlot]
  | some _ => []

def ofPayload : Option Argument → List Defect
  | some (.string s) => ofString s
  | some (.blob d) => ofSize "blob" d.toList.length
  | _ => []

end Defect

/-- A defect, with the element indexes from the outermost packet down to the packet it belongs
to, and the index of the argument it concerns. -/
structure Flaw where
  defect : Defect
  path : List Nat := []
  argument : Option Nat := none
  deriving DecidableEq, Repr

/-- A defect of the packet at hand, outside any argument. -/
def Defect.flaw (d : Defect) : Flaw := { defect := d }

namespace Flaw

/-- The failure that writing reports for a flaw. Writing knows no byte offsets. -/
def error (f : Flaw) : Error :=
  { stage := .encode, fault := f.defect.fault, detail := f.defect.detail, path := f.path,
    argument := f.argument }

def inElement (i : Nat) (f : Flaw) : Flaw := { f with path := i :: f.path }

/-- The flaws that `check` finds in argument slots numbered from `i`, each marked with the index
of its slot. -/
def ofSlots (check : Option Argument → List Defect) (args : List (Option Argument)) (i : Nat) :
    List Flaw :=
  (args.zipIdx i).flatMap fun (a, k) => (check a).map fun d => { defect := d, argument := some k }

@[simp] theorem ofSlots_nil (check : Option Argument → List Defect) (i : Nat) :
    ofSlots check [] i = [] := rfl

@[simp] theorem ofSlots_cons (check : Option Argument → List Defect) (a : Option Argument)
    (args : List (Option Argument)) (i : Nat) :
    ofSlots check (a :: args) i =
      (check a).map (fun d => { defect := d, argument := some i }) ++ ofSlots check args (i + 1) :=
  rfl

end Flaw

/-- The flaws of a message in writing order: its empty slots, then the defects of its address,
the size of its type tag string (a comma and a letter per slot) and the defects of its payloads. -/
def Message.flaws (m : Message) : List Flaw :=
  Flaw.ofSlots Defect.ofEmpty m.args 0 ++ (Defect.ofString m.address).map Defect.flaw ++
    (Defect.ofSize "string" (m.args.length + 1)).map Defect.flaw ++
    Flaw.ofSlots Defect.ofPayload m.args 0

/-- The length of a string of `n` bytes once written: the bytes, a NUL and the padding. -/
def Bytes.paddedLength (n : Nat) : Nat := n + 1 + Bytes.padding (n + 1)

def Argument.slotSize : Option Argument → Nat
  | some (.int32 _) | some (.float32 _) => 4
  | some (.string s) => Bytes.paddedLength s.length
  | some (.blob d) => 4 + d.toList.length + Bytes.padding d.toList.length
  | none => 0

def Message.wireSize (m : Message) : Nat :=
  Bytes.paddedLength m.address.length + Bytes.paddedLength (m.args.length + 1) +
    m.args.foldr (fun a n => Argument.slotSize a + n) 0

mutual

/-- The length of the wire form of a packet. -/
def Packet.wireSize : Packet → Nat
  | .message m => m.wireSize
  | .bundle _ els => 16 + Packet.elementsSize els
  | _ => 0

def Packet.elementsSize : List Packet → Nat
  | [] => 0
  | p :: ps => 4 + p.wireSize + Packet.elementsSize ps

end

mutual

/-- The flaws of a packet inside a bundle at level `depth` (zero at the top), under the nesting
limit `limit`, in writing order. -/
def Packet.flaws (limit depth : Nat) : Packet → List Flaw
  | .absent => [Defect.absentPacket.flaw]
  | .nullMessage => [Defect.nullMessage.flaw]
  | .nullBundle => [Defect.nullBundle.flaw]
  | .message m => m.flaws
  | .bundle _ els =>
    (if limit < depth + 1 then [(Defect.tooDeep limit).flaw] else []) ++
      Packet.elementFlaws limit (depth + 1) 0 els

/-- The flaws of the elements of a bundle at level `depth`, numbered from `i`: the flaws of an
element's contents come before the flaw of its size. -/
def Packet.elementFlaws (limit depth i : Nat) : List Packet → List Flaw
  | [] => []
  | .absent :: rest =>
    { defect := .absentElement, path := [i] } :: Packet.elementFlaws limit depth (i + 1) rest
  | p :: rest =>
    (Packet.flaws limit depth p ++ (Defect.ofSize "element" p.wireSize).map Defect.flaw).map
      (Flaw.inElement i) ++ Packet.elementFlaws limit depth (i + 1) rest

end

def Codec.flaws (c : Codec) (p : Packet) : List Flaw := p.flaws c.maxDepth 0

/-! ## Reporting the first flaw -/

/-- The step `x` reports the first of the flaws `fs`: it fails exactly when there is one, with
the failure of the first. -/
def Reports {α : Type} (x : Except Error α) (fs : List Flaw) : Prop :=
  match x with
  | .ok _ => fs = []
  | .error e => fs.head?.map Flaw.error = some e

namespace Reports

variable {α β : Type} {x : Except Error α} {fs gs : List Flaw}

theorem eq_error_iff (h : Reports x fs) (e : Error) :
    x = .error e ↔ fs.head?.map Flaw.error = some e := by
  cases x with
  | ok a =>
    have hfs : fs = [] := h
    simp [hfs]
  | error e' =>
    have hfs : fs.head?.map Flaw.error = some e' := h
    rw [hfs, Except.error.injEq, Option.some.injEq, eq_comm]

theorem fails_iff (h : Reports x fs) : (∃ e, x = .error e) ↔ fs ≠ [] := by
  cases x with
  | ok a =>
    have hfs : fs = [] := h
    simp [hfs]
  | error e =>
    have hfs : fs.head?.map Flaw.error = some e := h
    refine ⟨fun _ hn => ?_, fun _ => ⟨e, rfl⟩⟩
    simp [hn] at hfs

/-- A step `y` that fails with `g e` where `x` fails with `e`, and otherwise goes on as a step that
reports `gs`, reports the flaws of `x`, changed alike by `t`, before `gs`. -/
theorem step {y : Except Error β} {g : Error → Error} {t : Flaw → Flaw}
    (hg : ∀ f ∈ fs, (t f).error = g f.error) (hx : Reports x fs)
    (herr : ∀ e, x = .error e → y = .error (g e)) (hok : ∀ a, x = .ok a → Reports y gs) :
    Reports y (fs.map t ++ gs) := by
  cases x with
  | error e =>
    rw [herr e rfl]
    cases fs with
    | nil => cases hx
    | cons f fs =>
      have hf : f.error = e := Option.some.inj hx
      show some (t f).error = some (g e)
      rw [hg f (List.mem_cons_self ..), hf]
  | ok a =>
    have hfs : fs = [] := hx
    subst hfs
    exact hok a rfl

theorem bind {k : α → Except Error β} (hx : Reports x fs)
    (hk : ∀ a, x = .ok a → Reports (k a) gs) :
    Reports (x >>= k) (fs ++ gs) := by
  have h := step (y := x >>= k) (g := id) (t := id) (fun _ _ => rfl) hx
    (fun e he => by rw [he]; rfl) (fun a ha => by rw [ha]; exact hk a ha)
  rwa [List.map_id] at h

theorem map {f : α → β} (hx : Reports x fs) : Reports (x.map f) fs := by
  cases x <;> exact hx

theorem bind_pure {f : α → β} (hx : Reports x fs) : Reports (x >>= fun a => pure (f a)) fs := by
  cases x <;> exact hx

end Reports

namespace Wire.Encode

theorem reports_checkSize (n : Nat) (what : String) :
    Reports (checkSize n what) ((Defect.ofSize what n).map Defect.flaw) := by
  unfold checkSize Defect.ofSize
  by_cases h : maxSize < n
  · rw [if_pos h, if_pos h]
    rfl
  · rw [if_neg h, if_neg h]
    rfl

theorem reports_paddedString (s : Bytes) :
    Reports (paddedString s) ((Defect.ofString s).map Defect.flaw) := by
  unfold paddedString Defect.ofString
  simp only [List.contains_iff_mem]
  by_cases h0 : 0 ∈ s
  · rw [if_pos h0, if_pos h0]
    rfl
  rw [if_neg h0, if_neg h0, List.nil_append]
  by_cases hv : Utf8.valid s
  · simp only [hv, Bool.not_true, Bool.false_eq_true, if_false, if_true, List.nil_append]
    exact (reports_checkSize s.length "string").bind_pure
  · simp only [hv, Bool.not_false, if_true]
    rfl

theorem reports_blob (d : Bytes) :
    Reports (blob d) ((Defect.ofSize "blob" d.length).map Defect.flaw) := by
  unfold blob
  exact (reports_checkSize d.length "blob").bind_pure

theorem reports_payload (a : Argument) :
    Reports (payload a) ((Defect.ofPayload (some a)).map Defect.flaw) := by
  cases a with
  | int32 v => rfl
  | float32 bits => rfl
  | string s => exact reports_paddedString s
  | blob d => exact reports_blob d.toList

theorem reports_tagLetters (i : Nat) (args : List (Option Argument)) :
    Reports (tagLetters i args) (Flaw.ofSlots Defect.ofEmpty args i) := by
  induction args generalizing i with
  | nil => rfl
  | cons a args ih =>
    cases a with
    | none => rfl
    | some a => exact (ih (i + 1)).map

theorem reports_payloads (i : Nat) (as : List Argument) :
    Reports (payloads i (as.map some)) (Flaw.ofSlots Defect.ofPayload (as.map some) i) := by
  induction as generalizing i with
  | nil => rfl
  | cons a as ih =>
    have hflaws :
        (Defect.ofPayload (some a)).map (fun d => ({ defect := d, argument := some i } : Flaw)) =
          ((Defect.ofPayload (some a)).map Defect.flaw).map
            fun f => { f with argument := some i } := by
      rw [List.map_map]
      rfl
    rw [List.map_cons, Flaw.ofSlots_cons, hflaws]
    refine Reports.step (g := Error.atArgument i) (fun f hf => ?_) (reports_payload a)
      (fun e he => by simp only [payloads, he]) fun bs hbs => ?_
    -- a payload's flaws name no argument yet, so marking its failure names slot `i`
    · obtain ⟨d, -, rfl⟩ := List.mem_map.mp hf
      rfl
    · simp only [payloads, hbs]
      exact (ih (i + 1)).map

theorem reports_typeTags (args : List (Option Argument)) :
    Reports (typeTags args) (Flaw.ofSlots Defect.ofEmpty args 0) :=
  (reports_tagLetters 0 args).map

/-- The type tag string of arguments is NUL-free valid text, so only its size can be wrong. -/
theorem reports_tagString (as : List Argument) :
    Reports (paddedString (Utf8.ofString (String.ofList (',' :: as.map Argument.tag))))
      ((Defect.ofSize "string" (as.length + 1)).map Defect.flaw) := by
  have h := reports_paddedString (0x2C :: as.map Argument.tagByte)
  have h0 : (0 : UInt8) ∉ 0x2C :: as.map Argument.tagByte := by simp
  simp only [Defect.ofString, if_neg h0, Utf8.valid_tags, ↓reduceIte, List.nil_append,
    List.length_cons, List.length_map] at h
  rw [Utf8.ofString_tags]
  exact h

theorem reports_message (m : Message) : Reports (message m) m.flaws := by
  unfold message Message.flaws
  simp only [List.append_assoc]
  refine (reports_typeTags m.args).bind fun t ht => ?_
  obtain ⟨as, has, rfl⟩ := typeTags_eq_ok.mp ht
  refine (reports_paddedString m.address).bind fun _ _ => ?_
  rw [has, List.length_map]
  refine (reports_tagString as).bind fun _ _ => ?_
  exact (reports_payloads 0 as).bind_pure

/-! ## Lengths of wire forms -/

theorem length_of_payload {a : Argument} {bs : Bytes} (h : payload a = .ok bs) :
    bs.length = Argument.slotSize (some a) := by
  cases a with
  | int32 v =>
    simp only [payload, Except.ok.injEq] at h
    subst h
    rfl
  | float32 bits =>
    simp only [payload, Except.ok.injEq] at h
    subst h
    rfl
  | string s =>
    obtain ⟨-, -, -, rfl⟩ := paddedString_eq_ok.mp h
    simp only [List.length_append, Bytes.zeros_length, Argument.slotSize, Bytes.paddedLength]
    omega
  | blob d =>
    obtain ⟨-, rfl⟩ := blob_eq_ok.mp h
    simp only [List.length_append, Bytes.ofWord32_length, Bytes.zeros_length, Argument.slotSize]

theorem length_of_payloads {i : Nat} {args : List (Option Argument)} {body : Bytes}
    (h : payloads i args = .ok body) :
    body.length = args.foldr (fun a n => Argument.slotSize a + n) 0 := by
  induction args generalizing i body with
  | nil =>
    simp only [payloads, Except.ok.injEq] at h
    subst h
    rfl
  | cons a args ih =>
    cases a with
    | none => cases h
    | some a =>
      obtain ⟨bs, tail, ha, ht, rfl⟩ := payloads_cons_eq_ok.mp h
      rw [List.length_append, ih ht, List.foldr_cons, length_of_payload ha]

theorem length_of_message {m : Message} {bs : Bytes} (h : message m = .ok bs) :
    bs.length = m.wireSize := by
  obtain ⟨as, address, tags, body, has, hA, hT, hB, rfl⟩ := message_eq_ok.mp h
  obtain ⟨-, -, -, rfl⟩ := paddedString_eq_ok.mp hA
  obtain ⟨-, -, -, rfl⟩ := paddedString_eq_ok.mp hT
  rw [Message.wireSize, ← length_of_payloads hB, has]
  simp only [List.length_append, List.length_cons, List.length_map, Bytes.zeros_length,
    Bytes.paddedLength]
  omega

/-- The wire form of a packet, and of the elements of a bundle, has the length that
`Packet.wireSize` gives. -/
theorem length_of_packet (limit : Nat) :
    (∀ depth p bs, packet limit depth p = .ok bs → bs.length = p.wireSize) ∧
    (∀ depth i ps bs, elements limit depth i ps = .ok bs →
      bs.length = Packet.elementsSize ps) := by
  refine packet.mutual_induct limit
    (fun depth p => ∀ bs, packet limit depth p = .ok bs → bs.length = p.wireSize)
    (fun depth i ps => ∀ bs, elements limit depth i ps = .ok bs →
      bs.length = Packet.elementsSize ps)
    ?_ ?_ ?_ ?_ ?_ ?_ ?_ ?_ ?_ ?_ ?_
  -- what cannot be written has no length to check
  · intro depth bs h
    cases h
  · intro depth bs h
    cases h
  · intro depth bs h
    cases h
  · intro depth m bs h
    exact length_of_message h
  · intro depth tt els hd bs h
    simp [packet, hd] at h
  · intro depth tt els _ ih bs h
    obtain ⟨-, body, hb, rfl⟩ := packet_bundle_eq_ok.mp h
    simp only [List.length_append, Bytes.ofWord64_length, ih body hb, Packet.wireSize]
    rfl
  · intro depth i bs h
    simp only [elements, Except.ok.injEq] at h
    subst h
    rfl
  · intro depth i tail bs h
    cases h
  · intro depth i p rest _ e he _ bs h
    exact absurd h (elements_cons_ne_ok_of_error he)
  · intro depth i p rest _ pb hq e hc _ bs h
    exact absurd h (elements_cons_ne_ok_of_checkSize hq hc)
  · intro depth i p rest _ pb hq _ ih ihs bs h
    obtain ⟨-, pb', tail, hq', -, ht, rfl⟩ := elements_cons_eq_ok.mp h
    rw [hq, Except.ok.injEq] at hq'
    subst hq'
    simp only [List.length_append, Bytes.ofWord32_length, ih pb hq, ihs tail ht,
      Packet.elementsSize]

/-! ## Packets -/

/-- An element that is a packet reports the flaws of its contents, then the flaw of its size,
then the flaws of the elements after it. -/
theorem reports_elements_cons {limit depth i : Nat} {p : Packet} {rest : List Packet}
    (hp : p ≠ .absent) (hq : Reports (packet limit depth p) (p.flaws limit depth))
    (hr : ∀ bs, packet limit depth p = .ok bs → bs.length ≤ maxSize →
      Reports (elements limit depth (i + 1) rest) (Packet.elementFlaws limit depth (i + 1) rest)) :
    Reports (elements limit depth i (p :: rest))
      (Packet.elementFlaws limit depth i (p :: rest)) := by
  rw [elements.eq_3 _ _ _ _ _ hp, Packet.elementFlaws.eq_3 _ _ _ _ _ hp, List.map_append,
    List.append_assoc]
  refine Reports.step (g := Error.inElement i) (t := Flaw.inElement i) (fun _ _ => rfl) hq
    (fun e he => by rw [he]) fun bs hbs => ?_
  rw [hbs, ← (length_of_packet limit).1 depth p bs hbs]
  dsimp only
  refine Reports.step (g := Error.inElement i) (t := Flaw.inElement i) (fun _ _ => rfl)
    (reports_checkSize _ _) (fun e he => by rw [he]) fun u hc => ?_
  cases u
  rw [hc]
  exact (hr bs hbs (checkSize_eq_ok.mp hc)).map

/-- Writing a packet, or the elements of a bundle, reports the first of their flaws. -/
theorem reports_packet (limit : Nat) :
    (∀ depth p, Reports (packet limit depth p) (p.flaws limit depth)) ∧
    (∀ depth i ps,
      Reports (elements limit depth i ps) (Packet.elementFlaws limit depth i ps)) := by
  refine packet.mutual_induct limit
    (fun depth p => Reports (packet limit depth p) (p.flaws limit depth))
    (fun depth i ps => Reports (elements limit depth i ps) (Packet.elementFlaws limit depth i ps))
    ?_ ?_ ?_ ?_ ?_ ?_ ?_ ?_ ?_ ?_ ?_
  -- references to no packet are flaws of their own
  · intro depth
    rfl
  · intro depth
    rfl
  · intro depth
    rfl
  · intro depth m
    exact reports_message m
  -- the level of a bundle is checked before its elements
  · intro depth tt els hd
    rw [packet, if_pos hd, Packet.flaws, if_pos hd]
    rfl
  · intro depth tt els hd ih
    rw [packet, if_neg hd, Packet.flaws, if_neg hd, List.nil_append]
    exact ih.map
  · intro depth i
    rfl
  · intro depth i tail
    rfl
  -- an element that is a packet: its contents fail, its size fails, or it is written
  · intro depth i p rest hp e he ih
    refine reports_elements_cons hp ih fun bs hbs => ?_
    rw [he] at hbs
    cases hbs
  · intro depth i p rest hp bs hq e hc ih
    refine reports_elements_cons hp ih fun bs' hbs hm => ?_
    rw [hq, Except.ok.injEq] at hbs
    subst hbs
    rw [(checkSize_eq_ok (u := ())).mpr hm] at hc
    cases hc
  · intro depth i p rest hp _ _ _ ih ihs
    exact reports_elements_cons hp ih fun _ _ _ => ihs

end Wire.Encode

/-! ## Where flaws are -/

/-- The packet reached from `p` by following element indexes, outermost first. -/
def Packet.get? : Packet → List Nat → Option Packet
  | p, [] => some p
  | .bundle _ els, k :: path => els[k]?.bind fun q => q.get? path
  | _, _ :: _ => none

@[simp] theorem Packet.get?_nil (p : Packet) : p.get? [] = some p := by
  cases p <;> rfl

namespace Flaw

/-- The flaw `f` is found in the packet `p`: its path leads to a packet inside `p`, and its
argument, if it names one, is the index of an argument slot of the message there. -/
def FoundIn (f : Flaw) (p : Packet) : Prop :=
  ∃ q, p.get? f.path = some q ∧
    ∀ k, f.argument = some k → ∃ m, q = .message m ∧ k < m.args.length

/-- The flaw `f` is found in element `i + k` of a bundle whose elements from index `i` on are
`ps`. -/
def FoundAmong (f : Flaw) (i : Nat) (ps : List Packet) : Prop :=
  ∃ k path, f.path = (i + k) :: path ∧
    ∃ r, ps[k]? = some r ∧ ({ f with path := path } : Flaw).FoundIn r

theorem foundIn_flaw (d : Defect) (p : Packet) : d.flaw.FoundIn p :=
  ⟨p, p.get?_nil, fun _ h => by cases h⟩

theorem mem_ofSlots {check : Option Argument → List Defect} {args : List (Option Argument)}
    {i : Nat} {f : Flaw} (h : f ∈ ofSlots check args i) :
    f.path = [] ∧ ∀ k, f.argument = some k → k < i + args.length := by
  obtain ⟨⟨a, k⟩, hk, hf⟩ := List.mem_flatMap.mp h
  obtain ⟨d, -, rfl⟩ := List.mem_map.mp hf
  refine ⟨rfl, fun k' hk' => ?_⟩
  cases hk'
  exact (List.mem_zipIdx hk).2.1

theorem FoundAmong.cons {f : Flaw} {i : Nat} {p : Packet} {rest : List Packet}
    (h : f.FoundAmong (i + 1) rest) : f.FoundAmong i (p :: rest) := by
  obtain ⟨k, path, hpath, r, hr, hf⟩ := h
  exact ⟨k + 1, path, by rw [hpath, Nat.add_right_comm, Nat.add_assoc], r, hr, hf⟩

theorem FoundIn.inElement {f : Flaw} {p : Packet} (i : Nat) (rest : List Packet)
    (h : f.FoundIn p) : (f.inElement i).FoundAmong i (p :: rest) :=
  ⟨0, f.path, rfl, p, rfl, h⟩

theorem FoundAmong.bundle {f : Flaw} {els : List Packet} (tt : Timetag) (h : f.FoundAmong 0 els) :
    f.FoundIn (.bundle tt els) := by
  obtain ⟨k, path, hpath, r, hr, q, hq, harg⟩ := h
  refine ⟨q, ?_, harg⟩
  rw [hpath, Nat.zero_add, Packet.get?, hr]
  exact hq

end Flaw

/-- Every flaw of a message is the message's own, and its argument is one of the message's. -/
theorem Message.foundIn_of_mem_flaws {m : Message} {f : Flaw} (h : f ∈ m.flaws) :
    f.FoundIn (.message m) := by
  suffices hf : f.path = [] ∧ ∀ k, f.argument = some k → k < m.args.length by
    refine ⟨.message m, by rw [hf.1]; rfl, fun k hk => ⟨m, rfl, hf.2 k hk⟩⟩
  simp only [Message.flaws, List.mem_append, List.mem_map] at h
  rcases h with ((h | ⟨d, -, rfl⟩) | ⟨d, -, rfl⟩) | h
  · simpa using Flaw.mem_ofSlots h
  · exact ⟨rfl, fun _ hk => by cases hk⟩
  · exact ⟨rfl, fun _ hk => by cases hk⟩
  · simpa using Flaw.mem_ofSlots h

/-- Every flaw of a packet is found in it, and every flaw of the elements of a bundle is found in
one of them. -/
theorem Packet.flaws_foundIn (limit : Nat) :
    (∀ depth (p : Packet), ∀ f ∈ p.flaws limit depth, f.FoundIn p) ∧
    (∀ depth i ps, ∀ f ∈ Packet.elementFlaws limit depth i ps, f.FoundAmong i ps) := by
  refine Packet.flaws.mutual_induct
    (fun depth p => ∀ f ∈ p.flaws limit depth, f.FoundIn p)
    (fun depth i ps => ∀ f ∈ Packet.elementFlaws limit depth i ps, f.FoundAmong i ps)
    ?_ ?_ ?_ ?_ ?_ ?_ ?_ ?_
  -- a reference to no packet is its own flaw
  · intro depth f hf
    rw [List.mem_singleton.mp hf]
    exact Flaw.foundIn_flaw _ _
  · intro depth f hf
    rw [List.mem_singleton.mp hf]
    exact Flaw.foundIn_flaw _ _
  · intro depth f hf
    rw [List.mem_singleton.mp hf]
    exact Flaw.foundIn_flaw _ _
  · intro depth m f hf
    exact Message.foundIn_of_mem_flaws hf
  -- a bundle's own flaw is its level; the others are in its elements
  · intro depth tt els ih f hf
    rcases List.mem_append.mp hf with hd | he
    · split at hd
      · rw [List.mem_singleton.mp hd]
        exact Flaw.foundIn_flaw _ _
      · cases hd
    · exact (ih f he).bundle tt
  · intro depth i f hf
    cases hf
  · intro depth i rest ih f hf
    rcases List.mem_cons.mp hf with rfl | hr
    · exact ⟨0, [], rfl, .absent, rfl, Flaw.foundIn_flaw _ _⟩
    · exact (ih f hr).cons
  -- an element's flaws are its contents' and its size's, then those of the elements after it
  · intro depth i p rest hp ih ihs f hf
    rw [Packet.elementFlaws.eq_3 _ _ _ _ _ hp] at hf
    rcases List.mem_append.mp hf with hq | hr
    · obtain ⟨g, hg, rfl⟩ := List.mem_map.mp hq
      refine Flaw.FoundIn.inElement i rest ?_
      rcases List.mem_append.mp hg with hg | hg
      · exact ih g hg
      · obtain ⟨d, -, rfl⟩ := List.mem_map.mp hg
        exact Flaw.foundIn_flaw _ _
    · exact (ihs f hr).cons

/-- Writing a packet fails exactly when it has a flaw, and then reports the first flaw in writing
order as a failure of encoding at no offset. Its path leads to the packet inside `p` that has the
flaw, and its argument, if any, is the index of an argument slot of the message there. -/
theorem encode_reports_first_flaw (c : Codec) (p : Packet) :
    ((∃ e, c.encode p = .error e) ↔ c.flaws p ≠ []) ∧
      (∀ e, c.encode p = .error e ↔ (c.flaws p).head?.map Flaw.error = some e) ∧
      (∀ e, c.encode p = .error e → e.stage = .encode ∧ e.offset = none ∧
        ∃ q, p.get? e.path = some q ∧
          ∀ k, e.argument = some k → ∃ m, q = .message m ∧ k < m.args.length) := by
  have h := (Wire.Encode.reports_packet c.maxDepth).1 0 p
  refine ⟨h.fails_iff, h.eq_error_iff, fun e he => ?_⟩
  obtain ⟨f, hf, rfl⟩ := Option.map_eq_some_iff.mp ((h.eq_error_iff e).mp he)
  exact ⟨rfl, rfl, (Packet.flaws_foundIn c.maxDepth).1 0 p f (List.mem_of_head? hf)⟩

/-- The empty second slot of the message in element 0 is the packet's first flaw. -/
example :
    Codec.default.encode (.bundle .immediate [.message ⟨[0x2F], .ofList [some (.int32 1), none]⟩]) =
    .error (Flaw.error { defect := .emptySlot, path := [0], argument := some 1 }) := rfl

end SoundControl
