import SoundControl.Wire.Encode
import SoundControl.Wire.Decode
import SoundControl.Failure

/-! # Codec

The codec's limits and its entry points. The nesting limit counts bundles: the outermost bundle
is level 1 and a message is no level. A limit of zero or less stands for the default: 32 levels
and packets of at most 1 MiB. -/

namespace SoundControl

/-- The limits under which packets are read and written. -/
structure Codec where
  maxDepth : Nat := 32
  maxPacketSize : Nat := 1048576
  deriving DecidableEq, Repr

namespace Codec

/-- The default limits. -/
def default : Codec := {}

/-- The codec for the given limits, where zero or less stands for the default. -/
def ofLimits (maxDepth maxPacketSize : Int) : Codec :=
  { maxDepth := if maxDepth ≤ 0 then 32 else maxDepth.toNat
    maxPacketSize := if maxPacketSize ≤ 0 then 1048576 else maxPacketSize.toNat }

/-- The wire form of a packet. -/
def encode (c : Codec) (p : Packet) : Except Error Bytes :=
  Wire.Encode.packet c.maxDepth 0 p

/-- Writes the wire form of a packet after the bytes `pre`, into one buffer. -/
def append (c : Codec) (pre : Bytes) (p : Packet) : Except Error Bytes :=
  Wire.Encode.appendPacket c.maxDepth 0 pre p

/-- Reads a packet that fills the bytes: a bundle when they start with the bundle marker, a
message otherwise. -/
def decode (c : Codec) (bs : Bytes) : Except Error Packet :=
  Wire.Decode.packet c.maxDepth 1 bs.length bs

end Codec

namespace Message

/-- The wire form of a message. -/
def toBytes (m : Message) : Except Error Bytes := Wire.Encode.message m

/-- Reads a message that fills the bytes, whatever its address. -/
def ofBytes (bs : Bytes) : Except Error Message := Wire.Decode.message bs.length bs

/-- The type tag string of a message. -/
def typeTags (m : Message) : Except Error String := Wire.Encode.typeTags m.args

/-- The failure of asking a message reference that points nowhere for its type tags. -/
def nilTypeTagsError : Error :=
  { stage := .encode, fault := .unsupportedType, detail := "nil *Message" }

/-- The type tag string of a message reference; one that points nowhere has none. -/
def refTypeTags : Option Message → Except Error String
  | some m => m.typeTags
  | none => .error nilTypeTagsError

end Message

namespace Packet

/-- Reads a bundle that fills the bytes, under the default nesting limit. -/
def bundleOfBytes (bs : Bytes) : Except Error Packet :=
  Wire.Decode.bundle Codec.default.maxDepth 1 bs.length bs

/-- The wire form of a packet by its own writer, under the default nesting limit. A message
reference that points nowhere has no type tags; a bundle reference that points nowhere, or no
packet at all, is read through for its contents, a runtime fault. -/
def toBytes : Packet → Except Failure Bytes
  | .absent => .error Failure.nilDereference
  | .nullMessage => .error (Failure.ofError Message.nilTypeTagsError)
  | .nullBundle => .error Failure.nilDereference
  | p => (Codec.default.encode p).mapError Failure.ofError

end Packet

end SoundControl
