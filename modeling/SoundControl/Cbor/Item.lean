import SoundControl.Bytes
import SoundControl.Text.Utf8

/-! # CBOR data items

Reading exactly one well-formed CBOR data item (RFC 8949) under nesting and size limits, and
writing items in the canonical form. -/

namespace SoundControl

namespace Cbor

/-- A CBOR data item. -/
inductive Item where
  /-- An unsigned integer (major type 0). -/
  | unsigned (n : Nat)
  /-- The negative integer `-1 - n` (major type 1). -/
  | negative (n : Nat)
  /-- A byte string (major type 2), its chunks joined. -/
  | bytes (data : Bytes)
  /-- A text string (major type 3), its chunks joined, and whether each chunk is UTF-8 on its
  own. That is checked only where the string is read as text, and a chunk that ends inside a
  character fails it even when the joined bytes are UTF-8. -/
  | text (data : Bytes) (chunksValid : Bool)
  | array (items : List Item)
  | map (entries : List (Item × Item))
  | tagged (tag : Nat) (content : Item)
  /-- A simple value (major type 7): 20 is false, 21 true, 22 null and 23 undefined. -/
  | simple (n : Nat)
  /-- A floating-point number of 2, 4 or 8 bytes, by the additional information 25, 26 or 27
  and its bits. -/
  | float (info : Nat) (bits : Nat)
  deriving Inhabited

/-- The name of a major type in messages. -/
def typeName : Nat → String
  | 0 => "positive integer"
  | 1 => "negative integer"
  | 2 => "byte string"
  | 3 => "UTF-8 text string"
  | 4 => "array"
  | 5 => "map"
  | 6 => "tag"
  | _ => "primitives"

/-- The major type of an item. -/
def Item.major : Item → Nat
  | .unsigned _ => 0
  | .negative _ => 1
  | .bytes _ => 2
  | .text _ _ => 3
  | .array _ => 4
  | .map _ => 5
  | .tagged _ _ => 6
  | .simple _ => 7
  | .float _ _ => 7

/-- The name of an item's major type. -/
def Item.typeName (it : Item) : String := Cbor.typeName it.major

/-- Whether an item is null or undefined. -/
def Item.isNull : Item → Bool
  | .simple 22 | .simple 23 => true
  | _ => false

/-- Why bytes are not one well-formed item. -/
inductive ReadError where
  /-- There are no bytes at all. -/
  | empty
  /-- The bytes end inside an item. -/
  | truncated
  /-- The bytes break a rule of the format. -/
  | malformed (reason : String)
  deriving DecidableEq, Repr

/-- The message of a read error. -/
def ReadError.message : ReadError → String
  | .empty => "EOF"
  | .truncated => "unexpected EOF"
  | .malformed reason => "cbor: " ++ reason

/-- The head of an item: major type, additional information and argument. -/
structure Head where
  major : Nat
  info : Nat
  arg : Nat
  deriving DecidableEq, Repr

/-- The big-endian value of bytes. -/
def wordValue (bs : Bytes) : Nat := bs.foldl (fun n b => n * 256 + b.toNat) 0

/-- The most nested arrays, maps and tags that reading accepts. -/
def maxNesting : Nat := 32

/-- The most items of an array, and pairs of a map, that reading accepts. -/
def maxItems : Nat := 131072

/-- The break byte, which ends an item of indefinite length. -/
def breakByte : UInt8 := 0xFF

/-- Reads a head. The additional information 31 is kept for byte strings, text strings,
arrays and maps, where it means an indefinite length. -/
def readHead (bs : Bytes) : Except ReadError (Head × Bytes) :=
  match bs with
  | [] => .error .truncated
  | b :: rest =>
    let major := b.toNat / 32
    let info := b.toNat % 32
    if info < 24 then .ok (⟨major, info, info⟩, rest)
    else if info < 28 then
      let size := Nat.pow 2 (info - 24)
      if rest.length < size then .error .truncated
      else
        let v := wordValue (rest.take size)
        if major = 7 ∧ info = 24 ∧ v < 32 then
          .error (.malformed ("invalid simple value " ++ toString v ++ " for type primitives"))
        else .ok (⟨major, info, v⟩, rest.drop size)
    else if info = 31 then
      if major = 7 then .error (.malformed "unexpected \"break\" code")
      else if major = 0 ∨ major = 1 ∨ major = 6 then
        .error (.malformed ("invalid additional information 31 for type " ++ typeName major))
      else .ok (⟨major, 31, 0⟩, rest)
    else
      .error (.malformed ("invalid additional information " ++ toString info ++ " for type " ++
        typeName major))

/-- Reads the body of a definite string of `length` bytes. -/
def stringBody (major length : Nat) (bs : Bytes) : Except ReadError (Bytes × Bytes) :=
  if Nat.pow 2 63 ≤ length then
    .error (.malformed (typeName major ++ " length " ++ toString length ++
      " is too large, causing integer overflow"))
  else if bs.length < length then .error .truncated
  else .ok (bs.take length, bs.drop length)

/-- Reads the chunks of an indefinite string of major type `major` up to the break byte. Each
chunk takes at least one byte, so `fuel` above the length of the input is never used up. -/
def chunks (major : Nat) (fuel : Nat) (bs : Bytes) : Except ReadError (List Bytes × Bytes) :=
  match fuel with
  | 0 => .error .truncated
  | fuel + 1 =>
    match bs with
    | [] => .error .truncated
    | b :: rest =>
      if b = breakByte then .ok ([], rest)
      else if b.toNat / 32 ≠ major then
        .error (.malformed ("wrong element type " ++ typeName (b.toNat / 32) ++
          " for indefinite-length " ++ typeName major))
      else if b.toNat % 32 = 31 then
        .error (.malformed ("indefinite-length " ++ typeName major ++
          " chunk is not definite-length"))
      else do
        let (h, afterHead) ← readHead bs
        let (piece, more) ← stringBody major h.arg afterHead
        let (pieces, after) ← chunks major fuel more
        .ok (piece :: pieces, after)

/-- Pairs up the items of a map in reading order. -/
def pairs : List Item → List (Item × Item)
  | k :: v :: rest => (k, v) :: pairs rest
  | _ => []

mutual

/-- Reads one item at nesting `depth`; `inTag` says that it is the content of a tag. Each item
takes at least one byte, so `fuel` above the length of the input is never used up. -/
def readItem (fuel depth : Nat) (inTag : Bool) (bs : Bytes) : Except ReadError (Item × Bytes) :=
  match fuel with
  | 0 => .error .truncated
  | fuel + 1 => do
    let (h, rest) ← readHead bs
    if h.major = 0 then .ok (.unsigned h.arg, rest)
    else if h.major = 1 then .ok (.negative h.arg, rest)
    else if h.major = 2 ∨ h.major = 3 then
      let (pieces, more) ← if h.info = 31 then chunks h.major (rest.length + 1) rest
        else (stringBody h.major h.arg rest).map fun (data, more) => ([data], more)
      let data := pieces.flatten
      .ok (if h.major = 2 then .bytes data else .text data (pieces.all Utf8.valid), more)
    else if h.major = 4 ∨ h.major = 5 then
      if maxNesting < depth + 1 then
        .error (.malformed ("exceeded max nested level " ++ toString maxNesting))
      else if h.info = 31 then
        let (items, more) ← readUntilBreak fuel (depth + 1) h.major (rest.length + 1) 0 rest
        if h.major = 5 ∧ items.length % 2 = 1 then .error (.malformed "unexpected \"break\" code")
        else .ok (if h.major = 4 then .array items else .map (pairs items), more)
      else if Nat.pow 2 63 ≤ h.arg then
        .error (.malformed (typeName h.major ++ " length " ++ toString h.arg ++
          " is too large, it would cause integer overflow"))
      else if h.major = 4 ∧ maxItems < h.arg then
        .error (.malformed ("exceeded max number of elements " ++ toString maxItems ++
          " for CBOR array"))
      else if h.major = 5 ∧ maxItems < h.arg then
        .error (.malformed ("exceeded max number of key-value pairs " ++ toString maxItems ++
          " for CBOR map"))
      else
        let count := if h.major = 4 then h.arg else 2 * h.arg
        let (items, more) ← readItems fuel (depth + 1) count rest
        .ok (if h.major = 4 then .array items else .map (pairs items), more)
    else if h.major = 6 then
      let depth' := if inTag then depth + 1 else depth
      if maxNesting < depth' then
        .error (.malformed ("exceeded max nested level " ++ toString maxNesting))
      else
        let (content, more) ← readItem fuel depth' true rest
        .ok (.tagged h.arg content, more)
    else if 25 ≤ h.info then .ok (.float h.info h.arg, rest)
    else .ok (.simple h.arg, rest)
termination_by (fuel, 0, 0)

/-- Reads `count` items in a row at nesting `depth`. -/
def readItems (fuel depth count : Nat) (bs : Bytes) : Except ReadError (List Item × Bytes) :=
  match count with
  | 0 => .ok ([], bs)
  | count + 1 => do
    let (it, rest) ← readItem fuel depth false bs
    let (its, more) ← readItems fuel depth count rest
    .ok (it :: its, more)
termination_by (fuel, count + 1, 0)

/-- Reads items up to the break byte, at most `room` of them, `seen` having been read before;
`room` above the length of the input is never used up. -/
def readUntilBreak (fuel depth major room seen : Nat) (bs : Bytes) :
    Except ReadError (List Item × Bytes) :=
  match room with
  | 0 => .error .truncated
  | room + 1 =>
    match bs with
    | [] => .error .truncated
    | b :: rest =>
      if b = breakByte then .ok ([], rest)
      else do
        let (it, more) ← readItem fuel depth false bs
        if major = 4 ∧ maxItems < seen + 1 then
          .error (.malformed ("exceeded max number of elements " ++ toString maxItems ++
            " for CBOR array"))
        else if major = 5 ∧ (seen + 1) % 2 = 0 ∧ maxItems < (seen + 1) / 2 then
          .error (.malformed ("exceeded max number of key-value pairs " ++ toString maxItems ++
            " for CBOR map"))
        else
          let (its, after) ← readUntilBreak fuel depth major room (seen + 1) more
          .ok (it :: its, after)
termination_by (fuel, 0, room + 1)

end

/-- Reads bytes that hold exactly one well-formed item. -/
def Item.read (bs : Bytes) : Except ReadError Item :=
  if bs.isEmpty then .error .empty
  else do
    let (it, rest) ← readItem (bs.length + 1) 0 false bs
    if rest.isEmpty then .ok it
    else .error (.malformed (toString rest.length ++ " bytes of extraneous data starting at index " ++
      toString (bs.length - rest.length)))

/-- The shortest head of a major type with an argument. -/
def head (major n : Nat) : Bytes :=
  let first := (32 * major).toUInt8
  if n < 24 then [first + n.toUInt8]
  else if n < Nat.pow 2 8 then [first + 24, n.toUInt8]
  else if n < Nat.pow 2 16 then [first + 25, (n / Nat.pow 2 8).toUInt8, n.toUInt8]
  else if n < Nat.pow 2 32 then (first + 26) :: Bytes.ofWord32 n.toUInt32
  else (first + 27) :: Bytes.ofWord64 n.toUInt64

/-- Whether one encoded key comes before another in the canonical order. -/
def keyBefore (a b : Bytes) : Bool :=
  a.length < b.length || (a.length == b.length && decide (a.map UInt8.toNat < b.map UInt8.toNat))

mutual

/-- The canonical encoding of an item. -/
def Item.encode : Item → Bytes
  | .unsigned n => head 0 n
  | .negative n => head 1 n
  | .bytes data => head 2 data.length ++ data
  | .text data _ => head 3 data.length ++ data
  | .array items => head 4 items.length ++ (Item.encodeAll items).flatten
  | .map entries =>
    let encoded := Item.encodeEntries entries
    head 5 entries.length ++
      ((encoded.mergeSort fun a b => keyBefore a.1 b.1).map fun e => e.1 ++ e.2).flatten
  | .tagged t content => head 6 t ++ content.encode
  | .simple n => if n < 24 then [(0xE0 + n).toUInt8] else [0xF8, n.toUInt8]
  | .float info bits =>
    (0xE0 + info).toUInt8 :: ((Bytes.ofWord64 bits.toUInt64).drop (8 - Nat.pow 2 (info - 24)))

/-- The encodings of a list of items. -/
def Item.encodeAll : List Item → List Bytes
  | [] => []
  | it :: rest => it.encode :: Item.encodeAll rest

/-- The encodings of map entries, keys and values apart. -/
def Item.encodeEntries : List (Item × Item) → List (Bytes × Bytes)
  | [] => []
  | (k, v) :: rest => (k.encode, v.encode) :: Item.encodeEntries rest

end

end Cbor

end SoundControl
