import SoundControl.Packet
import SoundControl.Error
import SoundControl.Text.Quoted

/-! # Writing packets

The wire form of a packet: strings and blobs padded to a multiple of four bytes, a message as its
address, type tag string and payloads, and a bundle as its marker, time tag and size-prefixed
elements. Encoding stops at the first defect in writing order. -/

namespace SoundControl.Wire.Encode

/-- The largest size that a 32-bit signed size field holds. -/
def maxSize : Nat := 0x7FFFFFFF

/-- An encoding failure. -/
def encodeError (fault : Fault) (detail : String) : Error :=
  { stage := .encode, fault := fault, detail := detail }

/-- Refuses a size that a 32-bit signed size field cannot hold. -/
def checkSize (n : Nat) (what : String) : Except Error Unit :=
  if n > maxSize then .error (encodeError .tooLarge (what ++ " of " ++ toString n ++ " bytes"))
  else .ok ()

/-- The padded form of a string: its bytes, a NUL and the NULs up to a multiple of four. -/
def paddedString (s : Bytes) : Except Error Bytes :=
  if s.contains 0 then .error (encodeError .invalidString ("NUL byte in " ++ Quoted.quote s))
  else if !Utf8.valid s then
    .error (encodeError .invalidString ("invalid UTF-8 in " ++ Quoted.quote s))
  else do
    checkSize s.length "string"
    pure (s ++ Bytes.zeros (1 + Bytes.padding (s.length + 1)))

/-- The form of a blob: its length, its bytes and the NULs up to a multiple of four. -/
def blob (data : Bytes) : Except Error Bytes := do
  checkSize data.length "blob"
  pure (Bytes.ofWord32 data.length.toUInt32 ++ data ++ Bytes.zeros (Bytes.padding data.length))

/-- The payload of an argument. -/
def payload : Argument → Except Error Bytes
  | .int32 v => .ok (Bytes.ofWord32 v.toUInt32)
  | .float32 bits => .ok (Bytes.ofWord32 bits)
  | .string s => paddedString s
  | .blob data => blob data.toList

/-- The failure for an empty argument slot at index `i`. -/
def emptySlot (stage : Stage) (i : Nat) : Error :=
  { stage := stage, fault := .unsupportedType, detail := "nil argument", argument := some i }

/-- The letters of argument slots from index `i` on, failing at the first empty slot. -/
def tagLetters (i : Nat) : List (Option Argument) → Except Error (List Char)
  | [] => .ok []
  | none :: _ => .error (emptySlot .encode i)
  | some a :: rest => (tagLetters (i + 1) rest).map (a.tag :: ·)

/-- The type tag string of argument slots: a comma and one letter per argument. -/
def typeTags (args : List (Option Argument)) : Except Error String :=
  (tagLetters 0 args).map fun cs => String.ofList (',' :: cs)

/-- The payloads of argument slots from index `i` on, each failure marked with its index. -/
def payloads (i : Nat) : List (Option Argument) → Except Error Bytes
  | [] => .ok []
  | none :: _ => .error (emptySlot .encode i)
  | some a :: rest =>
    match payload a with
    | .error e => .error (e.atArgument i)
    | .ok bs => (payloads (i + 1) rest).map (bs ++ ·)

/-- The wire form of a message. -/
def message (m : Message) : Except Error Bytes := do
  let tags ← typeTags m.args
  let address ← paddedString m.address
  let tagString ← paddedString (Utf8.ofString tags)
  let body ← payloads 0 m.args
  pure (address ++ tagString ++ body)

mutual

/-- The wire form of a packet whose enclosing bundle is at nesting level `depth` (zero at the top),
under the nesting limit `limit`. -/
def packet (limit depth : Nat) : Packet → Except Error Bytes
  | .absent => .error (encodeError .unsupportedType "packet <nil>")
  | .nullMessage => .error (encodeError .unsupportedType "packet *osc.Message")
  | .nullBundle => .error (encodeError .unsupportedType "packet *osc.Bundle")
  | .message m => message m
  | .bundle tt els =>
    if depth + 1 > limit then
      .error (encodeError .depthExceeded ("limit " ++ toString limit))
    else
      (elements limit (depth + 1) 0 els).map fun body =>
        bundleMarker ++ Bytes.ofWord64 tt.bits ++ body

/-- The size-prefixed elements of a bundle at nesting level `depth`, from index `i` on. -/
def elements (limit depth i : Nat) : List Packet → Except Error Bytes
  | [] => .ok []
  | .absent :: _ => .error ((encodeError .unsupportedType "nil element").inElement i)
  | p :: rest =>
    match packet limit depth p with
    | .error e => .error (e.inElement i)
    | .ok bs =>
      match checkSize bs.length "element" with
      | .error e => .error (e.inElement i)
      | .ok () => (elements limit depth (i + 1) rest).map fun tail =>
          Bytes.ofWord32 bs.length.toUInt32 ++ bs ++ tail

end

/-! Writing into a buffer. The bytes already written come first and are kept; a bundle reserves
four zero bytes for each element's size before writing the element after them, and fills them in
once the element's length is known. -/

/-- Writes the 32-bit word `w` over the four bytes at offset `pos`. -/
def putWord32 (buf : Bytes) (pos : Nat) (w : UInt32) : Bytes :=
  buf.take pos ++ Bytes.ofWord32 w ++ buf.drop (pos + 4)

mutual

/-- Appends to `buf` the wire form of a packet whose enclosing bundle is at nesting level `depth`,
under the nesting limit `limit`. A message only appends its bytes. -/
def appendPacket (limit depth : Nat) (buf : Bytes) : Packet → Except Error Bytes
  | .absent => .error (encodeError .unsupportedType "packet <nil>")
  | .nullMessage => .error (encodeError .unsupportedType "packet *osc.Message")
  | .nullBundle => .error (encodeError .unsupportedType "packet *osc.Bundle")
  | .message m => (message m).map (buf ++ ·)
  | .bundle tt els =>
    if depth + 1 > limit then
      .error (encodeError .depthExceeded ("limit " ++ toString limit))
    else
      appendElements limit (depth + 1) 0 (buf ++ bundleMarker ++ Bytes.ofWord64 tt.bits) els

/-- Appends to `buf` the elements of a bundle at nesting level `depth`, from index `i` on: each
element's size is reserved as four zero bytes, and written over them once the element is. -/
def appendElements (limit depth i : Nat) (buf : Bytes) : List Packet → Except Error Bytes
  | [] => .ok buf
  | .absent :: _ => .error ((encodeError .unsupportedType "nil element").inElement i)
  | p :: rest =>
    match appendPacket limit depth (buf ++ Bytes.zeros 4) p with
    | .error e => .error (e.inElement i)
    | .ok buf' =>
      let size := buf'.length - buf.length - 4
      match checkSize size "element" with
      | .error e => .error (e.inElement i)
      | .ok () => appendElements limit depth (i + 1) (putWord32 buf' buf.length size.toUInt32) rest

end

end SoundControl.Wire.Encode
