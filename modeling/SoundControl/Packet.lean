import SoundControl.Bytes

/-! # Packets

The values the protocol carries: messages, bundles, and references that may be absent or point
nowhere. A blob and a message's argument list are slices, which may be nil; equality and every
view of a packet look only at a slice's items. -/

namespace SoundControl

/-- A slice as the language holds it: the nil slice, or a slice that is not nil, with its items,
which may be none. -/
inductive Slice (α : Type) where
  /-- The nil slice. -/
  | nil
  /-- A slice that is not nil. -/
  | ofList (items : List α)
  deriving DecidableEq, Repr

namespace Slice

variable {α : Type}

/-- The items of a slice. -/
def toList : Slice α → List α
  | .nil => []
  | .ofList xs => xs

/-- The slice that appending the items to the nil slice builds: nil when there are none. -/
def ofItems : List α → Slice α
  | [] => .nil
  | x :: xs => .ofList (x :: xs)

/-- The slice with the items appended: appending none leaves the slice as it is. -/
def append (s : Slice α) : List α → Slice α
  | [] => s
  | x :: xs => .ofList (s.toList ++ x :: xs)

/-- The slice cut to no items: the nil slice stays nil. -/
def emptied : Slice α → Slice α
  | .nil => .nil
  | .ofList _ => .ofList []

@[simp] theorem toList_nil : (Slice.nil : Slice α).toList = [] := rfl

@[simp] theorem toList_ofList (xs : List α) : (Slice.ofList xs).toList = xs := rfl

@[simp] theorem toList_ofItems (xs : List α) : (ofItems xs).toList = xs := by
  cases xs <;> rfl

@[simp] theorem toList_append (s : Slice α) (xs : List α) : (s.append xs).toList = s.toList ++ xs := by
  cases xs <;> simp [append]

@[simp] theorem toList_emptied (s : Slice α) : s.emptied.toList = [] := by
  cases s <;> rfl

@[simp] theorem ofItems_inj {xs ys : List α} : ofItems xs = ofItems ys ↔ xs = ys :=
  ⟨fun h => by simpa using congrArg toList h, congrArg ofItems⟩

end Slice

/-- A time tag: 32 bits of seconds since 1900 and 32 bits of binary fraction of a second. -/
structure Timetag where
  bits : UInt64
  deriving DecidableEq, Repr, Inhabited

/-- The time tag that means "at once". -/
def Timetag.immediate : Timetag := ⟨1⟩

/-- A message argument. -/
inductive Argument where
  /-- A signed 32-bit integer. -/
  | int32 (value : Int32)
  /-- A single-precision float, given by its bits. -/
  | float32 (bits : UInt32)
  /-- A string, as raw bytes. -/
  | string (bytes : Bytes)
  /-- A blob of bytes, which may be the nil slice. -/
  | blob (bytes : Slice UInt8)
  deriving DecidableEq, Repr

/-- The type tag letter of an argument. -/
def Argument.tag : Argument → Char
  | .int32 _ => 'i'
  | .float32 _ => 'f'
  | .string _ => 's'
  | .blob _ => 'b'

/-- A message: an address and its argument slots, where `none` is an empty slot. The slots are a
slice, which may be nil. -/
structure Message where
  address : Bytes
  arguments : Slice (Option Argument) := .nil
  deriving DecidableEq, Repr

/-- The argument slots of a message. -/
def Message.args (m : Message) : List (Option Argument) := m.arguments.toList

@[simp] theorem Message.args_mk (address : Bytes) (s : Slice (Option Argument)) :
    (Message.mk address s).args = s.toList := rfl

/-- A packet reference. -/
inductive Packet where
  /-- No packet at all. -/
  | absent
  /-- A message reference that points nowhere. -/
  | nullMessage
  /-- A bundle reference that points nowhere. -/
  | nullBundle
  /-- A message. -/
  | message (m : Message)
  /-- A bundle of element packets under one time tag. -/
  | bundle (timetag : Timetag) (elements : List Packet)

instance : Inhabited Packet := ⟨.absent⟩

/-- Argument equality: the same kind and the same value, floats by their bits and blobs by their
bytes, so that a nil blob equals an empty one; two empty slots are equal, and an empty slot
equals no argument. -/
def Argument.same : Option Argument → Option Argument → Bool
  | some (.int32 a), some (.int32 b) => a == b
  | some (.float32 a), some (.float32 b) => a == b
  | some (.string a), some (.string b) => a == b
  | some (.blob a), some (.blob b) => a.toList == b.toList
  | none, none => true
  | _, _ => false

/-- Message equality on message references, where `none` is a reference that points nowhere and
equals only another such reference: the same address, as many argument slots, and equal slots
pairwise. -/
def Message.equals : Option Message → Option Message → Bool
  | some m, some o => m.address == o.address && m.args.length == o.args.length &&
      (m.args.zip o.args).all fun (a, b) => Argument.same a b
  | m, o => m.isNone && o.isNone

mutual

/-- Packet equality: the same kind, equal messages, the same time tag and pairwise equal
elements. -/
def Packet.equal : Packet → Packet → Bool
  | .absent, .absent => true
  | .nullMessage, .nullMessage => true
  | .nullBundle, .nullBundle => true
  | .message m, .message n => Message.equals (some m) (some n)
  | .bundle t es, .bundle u fs => t == u && Packet.equalAll es fs
  | _, _ => false

/-- Pairwise equality of two element lists of the same length. -/
def Packet.equalAll : List Packet → List Packet → Bool
  | [], [] => true
  | p :: ps, q :: qs => Packet.equal p q && Packet.equalAll ps qs
  | _, _ => false

end

/-- A bundle: a time tag and element packets. -/
structure Bundle where
  timetag : Timetag
  elements : List Packet

/-- Bundle equality on bundle references, where `none` is a reference that points nowhere and
equals only another such reference: the same time tag, as many elements, and equal packets
pairwise. -/
def Bundle.equals : Option Bundle → Option Bundle → Bool
  | some b, some o => b.timetag == o.timetag && b.elements.length == o.elements.length &&
      (b.elements.zip o.elements).all fun (p, q) => p.equal q
  | b, o => b.isNone && o.isNone

/-- The packet that a message reference stands for. -/
def Packet.ofMessageRef : Option Message → Packet
  | some m => .message m
  | none => .nullMessage

/-- The packet that a bundle reference stands for. -/
def Packet.ofBundleRef : Option Bundle → Packet
  | some b => .bundle b.timetag b.elements
  | none => .nullBundle

/-! ## Slices as the reader builds them -/

/-- An argument as the reader builds it: a blob is never nil. -/
def Argument.asRead : Argument → Argument
  | .blob b => .blob (.ofList b.toList)
  | a => a

/-- A message as the reader builds it: its argument slots are nil when there are none. -/
def Message.asRead (m : Message) : Message :=
  ⟨m.address, .ofItems (m.args.map (Option.map Argument.asRead))⟩

mutual

/-- A packet with every slice in it as the reader builds it. -/
def Packet.asRead : Packet → Packet
  | .message m => .message m.asRead
  | .bundle t els => .bundle t (Packet.asReadAll els)
  | p => p

/-- Element packets with every slice in them as the reader builds it. -/
def Packet.asReadAll : List Packet → List Packet
  | [] => []
  | p :: ps => p.asRead :: Packet.asReadAll ps

end

@[simp] theorem Message.address_asRead (m : Message) : m.asRead.address = m.address := rfl

@[simp] theorem Message.args_asRead (m : Message) :
    m.asRead.args = m.args.map (Option.map Argument.asRead) := by
  simp [Message.asRead]

/-- The elements of a bundle as the reader builds them, element by element. -/
theorem Packet.asReadAll_eq_map : (ps : List Packet) → Packet.asReadAll ps = ps.map Packet.asRead
  | [] => rfl
  | p :: ps => by rw [Packet.asReadAll, Packet.asReadAll_eq_map ps, List.map_cons]

/-- The eight bytes that open every bundle: `#bundle` and a NUL. -/
def bundleMarker : Bytes := [0x23, 0x62, 0x75, 0x6E, 0x64, 0x6C, 0x65, 0x00]

/-- The address that the bundle marker spells. -/
def bundleAddress : Bytes := bundleMarker.take 7

end SoundControl
