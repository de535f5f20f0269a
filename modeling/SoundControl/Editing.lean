import SoundControl.Codec

/-! # Editing messages and bundles

Changing a message or a bundle in place, as programs over the receiver that may fail and keep
what they wrote before failing. Each change makes its checks first and writes the receiver's
fields after the last of them. -/

namespace SoundControl

/-- The failure of an append that is refused. -/
def appendError (detail : String) : Error :=
  { stage := .append, fault := .unsupportedType, detail := detail }

/-- A change made in place to a receiver of type `σ`. A change that fails leaves the receiver as
its writes before the failure made it. -/
abbrev Change (σ : Type) := EStateM Error σ

/-- The receiver after a change, and the failure when the change is refused. -/
def Change.apply {σ : Type} (c : Change σ Unit) (s : σ) : σ × Option Error :=
  match c.run s with
  | .ok _ s' => (s', none)
  | .error e s' => (s', some e)

namespace Message

/-- Checks the argument slots being appended, the first at index `i`: an empty one refuses the
call and is named by the index it would have had after the receiver's own arguments. -/
def checkSlots : Nat → List (Option Argument) → Change Message Unit
  | _, [] => pure ()
  | i, none :: _ => do
    let m ← get
    throw { appendError "nil argument" with argument := some (m.args.length + i) }
  | i, some _ :: rest => checkSlots (i + 1) rest

/-- Appends argument slots: all of them are checked before the receiver's arguments are
written. -/
def append (args : List (Option Argument)) : Change Message Unit := do
  checkSlots 0 args
  modify fun m => { m with arguments := m.arguments.append args }

/-- Empties the message. -/
def clear : Change Message Unit := do
  modify fun m => { m with address := [] }
  modify fun m => { m with arguments := m.arguments.emptied }

/-- Reads a message from its wire form into the receiver: the address, then the type tag string
and the arguments, and nothing may follow them. The receiver's address and arguments are
written after the last check. -/
def decode (bs : Bytes) : Change Message Unit := do
  let (address, rest) ← liftExcept (Wire.Decode.text bs.length "address" bs)
  let (args, rest) ← liftExcept (Wire.Decode.typedArguments bs.length rest)
  unless rest.isEmpty do
    throw (Wire.Decode.decodeError (bs.length - rest.length) .trailingData
      (toString rest.length ++ " bytes"))
  modify fun m => { m with address := address }
  modify fun m => { m with arguments := .ofItems args }

end Message

/-- An element of a bundle being assembled: a packet, or the bundle itself. -/
inductive Member where
  | packet (p : Packet)
  | itself
  deriving Inhabited

/-- A bundle being assembled. -/
structure Assembly where
  timetag : Timetag
  members : List Member
  deriving Inhabited

namespace Assembly

/-- A bundle with the given time tag and elements. -/
def ofPacket (t : Timetag) (els : List Packet) : Assembly := ⟨t, els.map .packet⟩

/-- Whether the bundle holds itself. -/
def holdsItself (a : Assembly) : Bool := a.members.any fun m => match m with
  | .itself => true
  | .packet _ => false

/-- The packet tree of the bundle with its own occurrences unfolded `levels` times; below that
they stand as empty bundles. Each level is built once and shared by all occurrences. -/
def unfold (a : Assembly) : Nat → Packet
  | 0 => .bundle a.timetag []
  | levels + 1 =>
    let inner := a.unfold levels
    .bundle a.timetag (a.members.map fun m => match m with
      | .packet p => p
      | .itself => inner)

/-- The packet tree that stands for the bundle under the nesting limit `limit`: its wire form is
that of the infinite tree the bundle unfolds to, which the limit always cuts. -/
def toPacket (a : Assembly) (limit : Nat) : Packet := a.unfold (limit + 1)

/-- Appends a packet, refusing an absent one and references that point nowhere. -/
def append (p : Packet) : Change Assembly Unit :=
  match p with
  | .absent => throw (appendError "<nil> is not a *Message or *Bundle")
  | .nullMessage => throw (appendError "nil *Message")
  | .nullBundle => throw (appendError "nil *Bundle")
  | p => modify fun a => { a with members := a.members ++ [.packet p] }

/-- Appends the bundle to itself. -/
def appendItself : Change Assembly Unit :=
  modify fun a => { a with members := a.members ++ [.itself] }

/-- Reads a bundle from its wire form into the receiver, as the outermost bundle under the
default nesting limit: the level is checked, the marker and the time tag are read, and then the
elements, each into a fresh packet as `Wire.Decode.elements` reads them. The receiver's time tag
and elements are written after the last element. -/
def decode (bs : Bytes) : Change Assembly Unit := do
  if 1 > Codec.default.maxDepth then
    throw (Wire.Decode.decodeError 0 .depthExceeded
      ("limit " ++ toString Codec.default.maxDepth))
  let (marker, rest) ← liftExcept (Wire.Decode.take bs.length 8 "bundle marker" bs)
  if marker != bundleMarker then
    throw (Wire.Decode.decodeError 0 .invalidBundleMarker (Quoted.quote marker))
  let (t, rest) ← liftExcept (Wire.Decode.word64 bs.length "time tag" rest)
  let els ← liftExcept (Wire.Decode.elements Codec.default.maxDepth 1 bs.length 0 rest)
  modify fun a => { a with timetag := ⟨t⟩ }
  modify fun a => { a with members := els.map .packet }

/-- The wire form under a codec's limits. -/
def encode (a : Assembly) (c : Codec) : Except Error Bytes := c.encode (a.toPacket c.maxDepth)

end Assembly

/-! ## Edits -/

/-- A change made to a message in place. -/
inductive MessageEdit where
  /-- Appends argument slots. -/
  | append (args : List (Option Argument))
  /-- Empties the message. -/
  | clear
  /-- Sets the address. -/
  | setAddress (address : Bytes)
  /-- Reads the message from the wire form that `data` fills. -/
  | unmarshal (data : Bytes)

/-- The program of an edit of a message. -/
def MessageEdit.change : MessageEdit → Change Message Unit
  | .append args => Message.append args
  | .clear => Message.clear
  | .setAddress address => modify fun m => { m with address := address }
  | .unmarshal data => Message.decode data

/-- The message after an edit, and the failure when the edit is refused. -/
def Message.edit (m : Message) (e : MessageEdit) : Message × Option Error := e.change.apply m

/-- A change made in place to a bundle being assembled. -/
inductive BundleEdit where
  /-- Appends a packet. -/
  | append (p : Packet)
  /-- Appends the bundle to itself. -/
  | appendItself
  /-- Sets the time tag. -/
  | setTimetag (t : Timetag)
  /-- Reads the bundle from the wire form that `data` fills. -/
  | unmarshal (data : Bytes)

/-- The program of an edit of a bundle. -/
def BundleEdit.change : BundleEdit → Change Assembly Unit
  | .append p => Assembly.append p
  | .appendItself => Assembly.appendItself
  | .setTimetag t => modify fun a => { a with timetag := t }
  | .unmarshal data => Assembly.decode data

/-- The bundle after an edit, and the failure when the edit is refused. -/
def Assembly.edit (a : Assembly) (e : BundleEdit) : Assembly × Option Error := e.change.apply a

end SoundControl
