import SoundControl.Document.Node
import SoundControl.Proofs.Number.FloatText
import SoundControl.Proofs.Wire.Failures

/-! # The text view, line by line

The text of a packet tree is one line per node in pre-order, indented by its level
(`text_lines`), and both views fault exactly on references that point nowhere
(`views_fault_exactly_on_null_references`). -/

namespace SoundControl

/-! ## Nodes in pre-order -/

mutual

/-- The nodes of a packet tree in pre-order, each with its nesting level, the root at `level`. -/
def Packet.preorder (level : Nat) : Packet → List (Nat × Packet)
  | .bundle t els => (level, .bundle t els) :: Packet.preorderAll (level + 1) els
  | p => [(level, p)]

/-- The nodes of a list of packet trees in pre-order, the roots at `level`. -/
def Packet.preorderAll (level : Nat) : List Packet → List (Nat × Packet)
  | [] => []
  | p :: ps => p.preorder level ++ Packet.preorderAll level ps

end

/-- The line that a node writes after its indentation: a message's text, nothing for a message
reference that points nowhere, and for a bundle `#bundle`, its time tag in hex and its element
count. -/
def Packet.ownLine : Packet → Bytes
  | .message m => m.line
  | .bundle t els =>
    Utf8.ofString ("#bundle " ++ t.hexText ++ " (" ++ toString els.length ++ " elements)")
  | _ => []

/-- The line of a node at a level: two spaces per level, its own line and a line break. -/
def nodeLine (node : Nat × Packet) : Bytes :=
  List.replicate (2 * node.1) 0x20 ++ node.2.ownLine ++ [0x0A]

/-- A node that the text view writes as one whole line: no absent packet, no bundle reference that
points nowhere, and no line break in a message's address. -/
def Packet.WholeLine : Packet → Prop
  | .absent => False
  | .nullBundle => False
  | .message m => 0x0A ∉ m.address
  | .nullMessage => True
  | .bundle _ _ => True

instance : DecidablePred Packet.WholeLine
  | .absent => isFalse id
  | .nullBundle => isFalse id
  | .message m => inferInstanceAs (Decidable (0x0A ∉ m.address))
  | .nullMessage => isTrue trivial
  | .bundle _ _ => isTrue trivial

/-! ## No line break inside a line -/

namespace Utf8

/-- Only a line break is encoded with the byte of a line break: the bytes of a longer encoding
all have their top bit set. -/
theorem eq_newline_of_mem_ofChar {c : Char} (h : (0x0A : UInt8) ∈ ofChar c) : c = '\n' := by
  have hv := c.valid
  simp only [UInt32.isValidChar, Nat.isValidChar] at hv
  have hc : c.toNat < 0x110000 := by
    simp only [Char.toNat]
    omega
  apply Char.ext
  apply UInt32.toNat_inj.mp
  show c.toNat = 10
  have hn := List.mem_map_of_mem (f := UInt8.toNat) h
  have h10 : (0x0A : UInt8).toNat = 10 := rfl
  unfold ofChar ofScalar at hn
  split_ifs at hn <;>
    simp only [List.map_cons, List.map_nil, List.mem_cons, List.not_mem_nil, or_false,
      Nat.toUInt8_eq, UInt8.toNat_ofNat', h10] at hn <;>
    omega

theorem newline_not_mem_ofString {s : String} (h : '\n' ∉ s.toList) : (0x0A : UInt8) ∉ ofString s := by
  intro hb
  obtain ⟨c, hc, hb⟩ := List.mem_flatMap.mp hb
  exact h (eq_newline_of_mem_ofChar hb ▸ hc)

end Utf8

/-! ### Characters of the texts in a line -/

theorem ofNat_ne_newline {n : Nat} (h : n ≠ 10) : Char.ofNat n ≠ '\n' := by
  intro heq
  have hn := congrArg Char.toNat heq
  rw [Char.toNat_ofNat] at hn
  split_ifs at hn <;> simp_all

theorem ne_newline_of_isDigit {c : Char} (h : c.isDigit = true) : c ≠ '\n' := by
  rintro rfl
  exact absurd h (by decide)

theorem newline_not_mem_toDigits (n : Nat) : '\n' ∉ Nat.toDigits 10 n :=
  fun h => ne_newline_of_isDigit (Nat.isDigit_of_mem_toDigits (by decide) (by decide) h) rfl

theorem newline_not_mem_natText (n : Nat) : '\n' ∉ (toString n).toList := by
  show '\n' ∉ (Nat.repr n).toList
  rw [Nat.repr, String.toList_ofList]
  exact newline_not_mem_toDigits n

theorem newline_not_mem_intText (i : Int) : '\n' ∉ (toString i).toList := by
  cases i with
  | ofNat n => exact newline_not_mem_natText n
  | negSucc n =>
    show '\n' ∉ ("-" ++ Nat.repr (n + 1)).toList
    rw [String.toList_append, List.mem_append, not_or]
    exact ⟨by decide, newline_not_mem_natText (n + 1)⟩

theorem not_mem_ite {α : Type} {p : Prop} [Decidable p] {x : α} {a b : List α} (ha : x ∉ a)
    (hb : x ∉ b) : x ∉ (if p then a else b) := by
  by_cases h : p
  · rwa [if_pos h]
  · rwa [if_neg h]

namespace Quoted

theorem hexDigit_ne_newline (k : Nat) : hexDigit k ≠ '\n' := by
  unfold hexDigit
  by_cases h : k < 10
  · rw [if_pos h]
    exact ofNat_ne_newline (by omega)
  · rw [if_neg h]
    exact ofNat_ne_newline (by omega)

theorem newline_not_mem_hexDigits (count n : Nat) : '\n' ∉ hexDigits count n := by
  simp only [hexDigits, List.mem_map]
  rintro ⟨i, -, h⟩
  exact hexDigit_ne_newline _ h

/-- An escape never holds a raw line break: the line break itself is not printable, so it is
written `\n`. -/
theorem newline_not_mem_escape {q : Char} (hq : q ≠ '\n') (n : Nat) : '\n' ∉ escape q n := by
  have hp : Printable.isPrintable 10 = false := by
    unfold Printable.isPrintable
    rw [if_pos (by decide)]
    decide
  -- the branches are taken one at a time: `split` would simplify with the printable table
  unfold escape
  by_cases h1 : n = q.toNat ∨ n = 0x5C
  · rw [if_pos h1]
    simp only [List.mem_cons, List.not_mem_nil, or_false, not_or]
    refine ⟨by decide, ?_⟩
    rcases h1 with rfl | rfl
    · rw [Char.ofNat_toNat]
      exact hq.symm
    · exact (ofNat_ne_newline (by decide)).symm
  rw [if_neg h1]
  by_cases h2 : Printable.isPrintable n = true
  · rw [if_pos h2, List.mem_singleton]
    exact (ofNat_ne_newline (by rintro rfl; rw [hp] at h2; cases h2)).symm
  rw [if_neg h2]
  -- every other escape is a backslash, a letter and hex digits
  repeat' apply not_mem_ite
  all_goals simp [byteEscape, newline_not_mem_hexDigits]

theorem newline_not_mem_quote (bs : Bytes) : '\n' ∉ (quote bs).toList := by
  simp only [quote, String.toList_ofList, List.mem_cons, List.mem_append, List.mem_flatMap,
    List.not_mem_nil, or_false, not_or, not_exists, not_and]
  refine ⟨⟨by decide, fun p _ => ?_⟩, by decide⟩
  cases p with
  | scalar c => exact newline_not_mem_escape (by decide) _
  | stray b => simp [pieceEscape, byteEscape, newline_not_mem_hexDigits]

end Quoted

/-! ### Float texts -/

theorem getD_ne_newline {ds : List Char} (hds : '\n' ∉ ds) (k : Nat) : ds.getD k '0' ≠ '\n' := by
  rw [List.getD_eq_getElem?_getD]
  cases h : ds[k]? with
  | none => decide
  | some c =>
    rintro rfl
    exact hds (List.mem_of_getElem? h)

theorem newline_not_mem_positional {ds : List Char} (hds : '\n' ∉ ds) (dp : Int) :
    '\n' ∉ positional ds dp := by
  have hwhole : '\n' ∉ (if dp > 0 then
      ds.take dp.toNat ++ List.replicate (dp.toNat - ds.length) '0' else ['0']) := by
    apply not_mem_ite
    · simp only [List.mem_append, List.mem_replicate, not_or, not_and]
      exact ⟨fun h => hds (List.mem_of_mem_take h), fun _ => by decide⟩
    · decide
  unfold positional
  apply not_mem_ite _ hwhole
  simp only [List.mem_append, List.mem_cons, List.mem_map, List.mem_range, not_or, not_exists,
    not_and]
  refine ⟨hwhole, by decide, fun i _ => ?_⟩
  by_cases hj : dp + (i : Int) < 0
  · rw [if_pos hj]
    decide
  · rw [if_neg hj]
    exact getD_ne_newline hds _

theorem newline_not_mem_exponential {ds : List Char} (hds : '\n' ∉ ds) (dp : Int) :
    '\n' ∉ exponential ds dp := by
  have hexp : '\n' ∉ decimalDigits (dp - 1).natAbs := newline_not_mem_toDigits _
  unfold exponential
  simp only [List.mem_append, List.mem_cons, not_or]
  refine ⟨?_, by decide, ?_, ?_⟩
  · -- the first digit, and the others after a point
    match ds, hds with
    | [], _ => decide
    | [d], hds => exact hds
    | d :: d' :: rest, hds =>
      simp only [List.mem_cons, not_or] at hds ⊢
      exact ⟨hds.1, by decide, hds.2⟩
  · by_cases hneg : dp - 1 < 0
    · rw [if_pos hneg]
      decide
    · rw [if_neg hneg]
      decide
  · apply not_mem_ite _ hexp
    simp only [List.mem_cons, not_or]
    exact ⟨by decide, hexp⟩

theorem newline_not_mem_generalText (d : Decimal) : '\n' ∉ d.generalText := by
  unfold Decimal.generalText
  apply not_mem_ite
  · exact newline_not_mem_exponential (newline_not_mem_toDigits _) _
  · exact newline_not_mem_positional (newline_not_mem_toDigits _) _

theorem newline_not_mem_singleText (bits : UInt32) : '\n' ∉ (singleText bits).toList := by
  unfold singleText floatText
  cases BinaryFormat.single.classify bits.toNat with
  | nan neg payload =>
    simp only
    decide
  | infinite neg => cases neg <;> simp only <;> decide
  | finite neg m e =>
    have hsign : '\n' ∉ (if neg = true then "-" else "").toList := by
      cases neg <;> decide
    simp only
    by_cases hm : m = 0
    · rw [if_pos hm, String.toList_append, List.mem_append, not_or]
      exact ⟨hsign, by decide⟩
    · rw [if_neg hm, String.toList_append, List.mem_append, not_or, String.toList_ofList]
      exact ⟨hsign, newline_not_mem_generalText _⟩

/-! ### Lines of messages and bundles -/

theorem Argument.newline_not_mem_text (a : Argument) : '\n' ∉ a.text.toList := by
  cases a with
  | int32 v => exact newline_not_mem_intText _
  | float32 bits => exact newline_not_mem_singleText bits
  | string s => exact Quoted.newline_not_mem_quote s
  | blob d =>
    simp only [Argument.text, String.toList_append, List.mem_append, not_or]
    exact ⟨⟨by decide, newline_not_mem_natText _⟩, by decide⟩

/-- A message's line holds a line break only where its address does: its type tags are letters,
and each argument is a number, a float text, a quoted string or a blob's size. -/
theorem Message.newline_not_mem_line {m : Message} (h : 0x0A ∉ m.address) : 0x0A ∉ m.line := by
  unfold Message.line
  split
  · simp only [List.mem_append, not_or]
    exact ⟨h, Utf8.newline_not_mem_ofString (by decide)⟩
  · rename_i tags htags
    obtain ⟨as, -, rfl⟩ := Wire.Encode.typeTags_eq_ok.mp htags
    simp only [List.mem_append, not_or]
    refine ⟨h, Utf8.newline_not_mem_ofString ?_⟩
    simp only [String.toList_append, String.toList_ofList, String.toList_join, List.mem_append,
      List.mem_cons, List.mem_map, List.mem_flatMap, not_or, not_exists, not_and]
    refine ⟨⟨by decide, by decide, fun a _ => by cases a <;> simp [Argument.tag]⟩, ?_⟩
    rintro s ⟨slot, -, rfl⟩
    cases slot with
    | none => simp
    | some a =>
      simp only [String.toList_append, List.mem_append, not_or]
      exact ⟨by decide, a.newline_not_mem_text⟩

theorem Timetag.newline_not_mem_hexText (t : Timetag) : '\n' ∉ t.hexText.toList := by
  simp only [Timetag.hexText, String.toList_append, String.toList_ofList, List.mem_append, not_or]
  exact ⟨by decide, Quoted.newline_not_mem_hexDigits _ _⟩

/-- A node's own line holds no line break, unless it is a message whose address holds one. -/
theorem Packet.newline_not_mem_ownLine {p : Packet} (h : p.WholeLine) : 0x0A ∉ p.ownLine := by
  cases p with
  | message m => exact Message.newline_not_mem_line h
  | bundle t els =>
    apply Utf8.newline_not_mem_ofString
    simp only [String.toList_append, List.mem_append, not_or]
    exact ⟨⟨⟨⟨by decide, t.newline_not_mem_hexText⟩, by decide⟩, newline_not_mem_natText _⟩,
      by decide⟩
  | nullMessage => simp [Packet.ownLine]
  | absent => exact h.elim
  | nullBundle => exact h.elim

/-! ## The text in lines -/

theorem bundleLine_newline (t : Timetag) (n : Nat) :
    Utf8.ofString ("#bundle " ++ t.hexText ++ " (" ++ toString n ++ " elements)\n") =
      Utf8.ofString ("#bundle " ++ t.hexText ++ " (" ++ toString n ++ " elements)") ++ [0x0A] := by
  rw [show (" elements)\n" : String) = " elements)" ++ "\n" from rfl, ← String.append_assoc,
    Utf8.ofString_append]
  rfl

mutual

/-- A packet tree in which every node writes a whole line has, as its text, the lines of its
nodes in pre-order. -/
theorem Packet.textAt_eq_lines (level : Nat) :
    (p : Packet) → (∀ x ∈ p.preorder level, x.2.WholeLine) →
      p.textAt level = .ok ((p.preorder level).flatMap nodeLine)
  | .message m, _ => by
    simp [Packet.textAt, Packet.preorder, nodeLine, Packet.ownLine, indentation]
  | .nullMessage, _ => by
    simp [Packet.textAt, Packet.preorder, nodeLine, Packet.ownLine, indentation]
  | .bundle t els, h => by
    have ih := Packet.textAll_eq_lines (level + 1) els
      (fun x hx => h x (by simp [Packet.preorder, hx]))
    rw [Packet.textAt, ih, bundleLine_newline]
    simp [Packet.preorder, Except.map, nodeLine, Packet.ownLine, indentation]
  | .absent, h => (h (level, .absent) (by simp [Packet.preorder])).elim
  | .nullBundle, h => (h (level, .nullBundle) (by simp [Packet.preorder])).elim

/-- A list of packet trees in which every node writes a whole line has, as its text, the lines
of their nodes in pre-order. -/
theorem Packet.textAll_eq_lines (level : Nat) :
    (ps : List Packet) → (∀ x ∈ Packet.preorderAll level ps, x.2.WholeLine) →
      Packet.textAll level ps = .ok ((Packet.preorderAll level ps).flatMap nodeLine)
  | [], _ => rfl
  | p :: ps, h => by
    have hp := Packet.textAt_eq_lines level p (fun x hx => h x (by simp [Packet.preorderAll, hx]))
    have hps := Packet.textAll_eq_lines level ps
      (fun x hx => h x (by simp [Packet.preorderAll, hx]))
    simp [Packet.textAll, Packet.preorderAll, hp, hps, Except.map]

end

/-- The line of a node whose own line holds no line break holds one line break, its last byte. -/
theorem count_newline_nodeLine {node : Nat × Packet} (h : 0x0A ∉ node.2.ownLine) :
    (nodeLine node).count 0x0A = 1 := by
  simp [nodeLine, List.count_append, List.count_replicate, List.count_eq_zero_of_not_mem h]

theorem count_newline_lines {nodes : List (Nat × Packet)} (h : ∀ x ∈ nodes, x.2.WholeLine) :
    (nodes.flatMap nodeLine).count 0x0A = nodes.length := by
  induction nodes with
  | nil => rfl
  | cons x xs ih =>
    rw [List.flatMap_cons, List.count_append,
      count_newline_nodeLine (Packet.newline_not_mem_ownLine (h x (by simp))),
      ih (fun y hy => h y (by simp [hy])), List.length_cons, Nat.add_comm]

/-- The text of a packet tree, when no element is absent, no bundle reference points nowhere and
no address holds a line break, is one line per node in pre-order: two spaces per nesting level,
the node's own line and a line break. So it holds as many line breaks as the tree has nodes. -/
theorem text_lines (p : Packet) (hp : ∀ x ∈ p.preorder 0, x.2.WholeLine) :
    p.text = .ok ((p.preorder 0).flatMap nodeLine) ∧
      ((p.preorder 0).flatMap nodeLine).count 0x0A = (p.preorder 0).length :=
  ⟨Packet.textAt_eq_lines 0 p hp, count_newline_lines hp⟩

/-- A bundle holding a message whose string holds a line break, and a message reference that points
nowhere, is written as three lines, one per node. -/
theorem text_lines_sample :
    (∀ x ∈ (Packet.bundle ⟨1⟩ [.message ⟨[0x2F, 0x61], .ofList [some (.string [0x68, 0x0A])]⟩,
        .nullMessage]).preorder 0, x.2.WholeLine) ∧
    (Packet.bundle ⟨1⟩ [.message ⟨[0x2F, 0x61], .ofList [some (.string [0x68, 0x0A])]⟩,
        .nullMessage]).text =
      .ok (((Packet.bundle ⟨1⟩ [.message ⟨[0x2F, 0x61], .ofList [some (.string [0x68, 0x0A])]⟩,
        .nullMessage]).preorder 0).flatMap nodeLine) ∧
    (((Packet.bundle ⟨1⟩ [.message ⟨[0x2F, 0x61], .ofList [some (.string [0x68, 0x0A])]⟩,
        .nullMessage]).preorder 0).flatMap nodeLine).count 0x0A = 3 := by
  have h : ∀ x ∈ (Packet.bundle ⟨1⟩ [.message ⟨[0x2F, 0x61], .ofList [some (.string [0x68, 0x0A])]⟩,
      .nullMessage]).preorder 0, x.2.WholeLine := by
    decide
  exact ⟨h, text_lines _ h⟩

/-! ## Faults of the views -/

mutual

/-- The text of a packet tree faults exactly when some bundle reference in it points nowhere, and
then with the fault of reading through that reference. -/
theorem Packet.textAt_eq_error_iff (level : Nat) :
    (p : Packet) → ∀ f, p.textAt level = .error f ↔
      f = Failure.nilDereference ∧ Packet.nullBundle ∈ (p.preorder level).map Prod.snd
  | .message m, f => by simp [Packet.textAt, Packet.preorder]
  | .nullMessage, f => by simp [Packet.textAt, Packet.preorder]
  | .absent, f => by simp [Packet.textAt, Packet.preorder]
  | .nullBundle, f => by simp [Packet.textAt, Packet.preorder, eq_comm]
  | .bundle t els, f => by
    rw [Packet.textAt, Except.map_eq_error, Packet.textAll_eq_error_iff (level + 1) els f]
    simp [Packet.preorder]

/-- The text of a list of packet trees faults exactly when some bundle reference in them points
nowhere. -/
theorem Packet.textAll_eq_error_iff (level : Nat) :
    (ps : List Packet) → ∀ f, Packet.textAll level ps = .error f ↔
      f = Failure.nilDereference ∧ Packet.nullBundle ∈ (Packet.preorderAll level ps).map Prod.snd
  | [], f => by simp [Packet.textAll, Packet.preorderAll]
  | p :: ps, f => by
    have hp := Packet.textAt_eq_error_iff level p
    have hps := Packet.textAll_eq_error_iff level ps f
    rw [Packet.textAll, Packet.preorderAll, List.map_append, List.mem_append]
    cases h : p.textAt level with
    | error g =>
      -- the first tree faults, and its fault ends the text
      obtain ⟨rfl, hmem⟩ := (hp g).mp h
      simp [hmem, eq_comm]
    | ok first =>
      -- the first tree is written, so it holds no such reference
      have hno : Packet.nullBundle ∉ (p.preorder level).map Prod.snd := fun hmem =>
        nomatch h.symm.trans ((hp _).mpr ⟨rfl, hmem⟩)
      simp [Except.map_eq_error, hps, hno]

end

/-- Whether a node is no message and no bundle: absent, or a reference that points nowhere. -/
def Packet.isGap : Packet → Bool
  | .absent => true
  | .nullMessage => true
  | .nullBundle => true
  | .message _ => false
  | .bundle _ _ => false

/-- The first node of a list that is no message and no bundle. -/
def firstGap (nodes : List (Nat × Packet)) : Option Packet :=
  (nodes.map Prod.snd).find? Packet.isGap

theorem firstGap_append (xs ys : List (Nat × Packet)) :
    firstGap (xs ++ ys) = (firstGap xs).or (firstGap ys) := by
  simp [firstGap, List.find?_append]

theorem firstGap_cons (k : Nat) (q : Packet) (xs : List (Nat × Packet)) :
    firstGap ((k, q) :: xs) = if q.isGap then some q else firstGap xs := by
  simp only [firstGap, List.map_cons, List.find?_cons]
  split <;> simp_all

theorem Failure.wrap_eq_nilDereference {f : Failure} {pre : String} :
    f.wrap pre = Failure.nilDereference ↔ f = Failure.nilDereference := by
  unfold Failure.wrap
  split
  · exact Iff.rfl
  · rename_i hf
    constructor
    · intro h
      exact absurd (congrArg Failure.cause h) hf
    · rintro rfl
      exact absurd rfl hf

mutual

/-- The document of a packet tree exists exactly when every node is a message or a bundle. -/
theorem Node.ofPacket_ok_iff (level : Nat) :
    (p : Packet) → ((∃ n, Node.ofPacket p = .ok n) ↔ firstGap (p.preorder level) = none)
  | .message m => by simp [Node.ofPacket, Packet.preorder, firstGap, Packet.isGap]
  | .nullMessage => by simp [Node.ofPacket, Packet.preorder, firstGap, Packet.isGap]
  | .nullBundle => by simp [Node.ofPacket, Packet.preorder, firstGap, Packet.isGap]
  | .absent => by simp [Node.ofPacket, Packet.preorder, firstGap, Packet.isGap]
  | .bundle t els => by
    rw [Node.ofPacket, Packet.preorder, firstGap_cons, if_neg (by simp [Packet.isGap]),
      ← Node.ofElements_ok_iff (level + 1) els 0]
    simp [Except.map_eq_ok]

/-- The document nodes of a list of packet trees exist exactly when every node is a message or a
bundle. -/
theorem Node.ofElements_ok_iff (level : Nat) :
    (ps : List Packet) → ∀ i, ((∃ ns, Node.ofElements i ps = .ok ns) ↔
      firstGap (Packet.preorderAll level ps) = none)
  | [], i => by simp [Node.ofElements, Packet.preorderAll, firstGap]
  | p :: ps, i => by
    have hp := Node.ofPacket_ok_iff level p
    rw [Packet.preorderAll, firstGap_append, Option.or_eq_none_iff]
    cases h : Node.ofPacket p with
    | error f =>
      -- the first tree has no document, so the list has none
      have hgap : firstGap (p.preorder level) ≠ none := fun hn => by
        obtain ⟨n, hn⟩ := hp.mpr hn
        rw [h] at hn
        cases hn
      simp [Node.ofElements, h, hgap]
    | ok n =>
      have hgap : firstGap (p.preorder level) = none := hp.mp ⟨n, h⟩
      simp [Node.ofElements, h, hgap, Except.map_eq_ok, ← Node.ofElements_ok_iff level ps (i + 1)]

end

mutual

/-- The document of a packet tree faults exactly when the first node that is no message and no
bundle, in pre-order, is a reference that points nowhere; an absent node before any such
reference stops the document with an error of its own. -/
theorem Node.ofPacket_eq_fault_iff (level : Nat) :
    (p : Packet) → (Node.ofPacket p = .error Failure.nilDereference ↔
      ∃ q, firstGap (p.preorder level) = some q ∧ q ≠ .absent)
  | .message m => by simp [Node.ofPacket, Packet.preorder, firstGap, Packet.isGap]
  | .nullMessage => by simp [Node.ofPacket, Packet.preorder, firstGap, Packet.isGap]
  | .nullBundle => by simp [Node.ofPacket, Packet.preorder, firstGap, Packet.isGap]
  | .absent => by
    simp [Node.ofPacket, Packet.preorder, firstGap, Packet.isGap, Failure.plain,
      Failure.nilDereference, Failure.ofFault]
  | .bundle t els => by
    rw [Node.ofPacket, Packet.preorder, firstGap_cons, if_neg (by simp [Packet.isGap]),
      Except.map_eq_error]
    exact Node.ofElements_eq_fault_iff (level + 1) els 0

/-- The document nodes of a list of packet trees fault exactly when the first node that is no
message and no bundle, in pre-order, is a reference that points nowhere. -/
theorem Node.ofElements_eq_fault_iff (level : Nat) :
    (ps : List Packet) → ∀ i, (Node.ofElements i ps = .error Failure.nilDereference ↔
      ∃ q, firstGap (Packet.preorderAll level ps) = some q ∧ q ≠ .absent)
  | [], i => by simp [Node.ofElements, Packet.preorderAll, firstGap]
  | p :: ps, i => by
    rw [Packet.preorderAll, firstGap_append]
    cases h : Node.ofPacket p with
    | error f =>
      -- the first tree decides: a fault passes every wrapping unchanged
      obtain ⟨g, hg⟩ : ∃ g, firstGap (p.preorder level) = some g := by
        cases hgap : firstGap (p.preorder level) with
        | none =>
          obtain ⟨n, hn⟩ := (Node.ofPacket_ok_iff level p).mpr hgap
          rw [h] at hn
          cases hn
        | some g => exact ⟨g, rfl⟩
      have hp := Node.ofPacket_eq_fault_iff level p
      rw [h, hg] at hp
      simp only [Node.ofElements, h, Except.error.injEq, Failure.wrap_eq_nilDereference, hg,
        Option.some_or]
      simpa using hp
    | ok n =>
      -- the first tree has its document, so the rest decides
      have hgap : firstGap (p.preorder level) = none := (Node.ofPacket_ok_iff level p).mp ⟨n, h⟩
      simp only [Node.ofElements, h, Except.map_eq_error, hgap, Option.none_or]
      exact Node.ofElements_eq_fault_iff level ps (i + 1)

end

/-- Both views of a packet tree fault on a reference that points nowhere: the text exactly when
some bundle reference points nowhere, the document exactly when the first node in pre-order that
is no message and no bundle is such a reference, of either kind. The document exists exactly when
there is no such node at all. -/
theorem views_fault_exactly_on_null_references (p : Packet) :
    (∀ f, p.text = .error f ↔
      f = Failure.nilDereference ∧ Packet.nullBundle ∈ (p.preorder 0).map Prod.snd) ∧
    (Node.ofPacket p = .error Failure.nilDereference ↔
      ∃ q, firstGap (p.preorder 0) = some q ∧ q ≠ .absent) ∧
    ((∃ n, Node.ofPacket p = .ok n) ↔ firstGap (p.preorder 0) = none) :=
  ⟨Packet.textAt_eq_error_iff 0 p, Node.ofPacket_eq_fault_iff 0 p, Node.ofPacket_ok_iff 0 p⟩

/-- A message reference that points nowhere has a text, an empty line, but no document. -/
example : Packet.nullMessage.text = .ok [0x0A] ∧
    Node.ofPacket .nullMessage = .error Failure.nilDereference :=
  ⟨rfl, rfl⟩

end SoundControl
