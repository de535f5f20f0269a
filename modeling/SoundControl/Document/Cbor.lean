import SoundControl.Document.Node
import SoundControl.Cbor.Item
import SoundControl.Text.Quoted
import SoundControl.Number.Format
import SoundControl.Moment

/-! # Nodes as CBOR

A node is written as a CBOR map in canonical order with the same members as in JSON. Reading
takes one well-formed item and fills the node record by record, keeping the first fault while the
rest is still read. -/

namespace SoundControl

namespace CborForm

open Cbor

/-- The places a value is read into, each with the type name that messages give it. -/
inductive Slot where
  | node
  | message
  | bundle
  | text
  | texts
  | timetag
  | nodes
  deriving DecidableEq, Repr

/-- The type name of a slot. -/
def Slot.typeName : Slot → String
  | .node => "packetdoc.Node"
  | .message => "packetdoc.MessageNode"
  | .bundle => "packetdoc.BundleNode"
  | .text => "string"
  | .texts => "[]string"
  | .timetag => "uint64"
  | .nodes => "[]packetdoc.Node"

/-- Whether a slot holds a record. -/
def Slot.isRecord : Slot → Bool
  | .node | .message | .bundle => true
  | _ => false

/-- Whether a slot holds a list. -/
def Slot.isList : Slot → Bool
  | .texts | .nodes => true
  | _ => false

/-- An item of a kind that a slot cannot hold. -/
structure Mismatch where
  /-- The kind of item found. -/
  found : String
  /-- The type name of the slot. -/
  target : String
  /-- The outermost record field that holds the slot, as `type.field`. -/
  field : Option String := none
  /-- What more there is to say. -/
  note : Option String := none
  deriving DecidableEq, Repr

/-- Why an item cannot be read into a node. -/
inductive Fault where
  | mismatch (m : Mismatch)
  /-- Any other fault, by its message. -/
  | other (message : String)
  deriving DecidableEq, Repr

/-- The message of a fault. -/
def Fault.message : Fault → String
  | .mismatch m =>
    let place := match m.field with
      | some f => " into Go struct field " ++ f
      | none => " into Go value"
    let note := match m.note with
      | some n => " (" ++ n ++ ")"
      | none => ""
    "cbor: cannot unmarshal " ++ m.found ++ place ++ " of type " ++ m.target ++ note
  | .other message => message

/-- The fault named by the record field that holds it. -/
def Fault.inField (record field : String) : Fault → Fault
  | .mismatch m => .mismatch { m with field := some (record ++ "." ++ field) }
  | f => f

/-- The fault of text that is not valid UTF-8. -/
def invalidText : Fault := .other "cbor: invalid UTF-8 string"

/-- The mismatch of an item read into a slot that cannot hold it. -/
def mismatchOf (slot : Slot) : Item → Fault
  | .negative n =>
    if Nat.pow 2 63 ≤ n then
      .mismatch ⟨"negative integer", slot.typeName, none,
        some ("-" ++ toString (n + 1) ++ " overflows Go's int64")⟩
    else .mismatch ⟨"negative integer", slot.typeName, none, none⟩
  | .array _ =>
    .mismatch ⟨"array", slot.typeName, none,
      if slot.isRecord then some "cannot decode CBOR array to struct without toarray option"
      else none⟩
  | .tagged 2 (.bytes b) =>
    if slot.isList ∨ wordValue b < Nat.pow 2 64 then .mismatch ⟨"tag", slot.typeName, none, none⟩
    else .mismatch ⟨"tag", slot.typeName, none,
      some (toString (wordValue b) ++ " overflows " ++ slot.typeName)⟩
  | .tagged 3 (.bytes b) =>
    if slot.isList ∨ wordValue b < Nat.pow 2 63 then .mismatch ⟨"tag", slot.typeName, none, none⟩
    else .mismatch ⟨"tag", slot.typeName, none,
      some ("-" ++ toString (wordValue b + 1) ++ " overflows " ++ slot.typeName)⟩
  | it => .mismatch ⟨it.typeName, slot.typeName, none, none⟩

/-- The fault of a tag whose content is of a kind the tag does not admit: text for tag 0, a
number for tag 1, bytes for tags 2 and 3. -/
def tagContentFault (tag : Nat) (content : Item) : Option Fault :=
  let got := content.typeName
  if tag = 0 then
    match content with
    | .text _ _ => none
    | _ => some (.other ("cbor: tag number 0 must be followed by text string, got " ++ got))
  else if tag = 1 then
    match content with
    | .unsigned _ | .negative _ | .float _ _ => none
    | _ => some (.other ("cbor: tag number 1 must be followed by integer or floating-point number, got " ++ got))
  else if tag = 2 ∨ tag = 3 then
    match content with
    | .bytes _ => none
    | _ => some (.other ("cbor: tag number 2 or 3 must be followed by byte string, got " ++ got))
  else none

/-- The first inadmissible content in a chain of tags. -/
def tagFault? : Item → Option Fault
  | .tagged t content => (tagContentFault t content).orElse fun _ => tagFault? content
  | _ => none

/-- A value read so far, with the first fault met while reading it. -/
abbrev Reading (α : Type) := α × Option Fault

/-- Reads a string. -/
def textOf (cur : Bytes) : Item → Reading Bytes
  | .text bs ok => if ok then (bs, none) else (cur, some invalidText)
  | .simple 22 | .simple 23 => (cur, none)
  | .tagged t content =>
    match tagFault? (Item.tagged t content) with
    | some f => (cur, some f)
    | none =>
      if t = 2 ∨ t = 3 then (cur, some (mismatchOf .text (Item.tagged t content)))
      else textOf cur content
  | it => (cur, some (mismatchOf .text it))

/-- Reads the items of a list of strings. -/
def textItems : List Item → Reading (List Bytes)
  | [] => ([], none)
  | it :: rest =>
    let (s, e) := textOf [] it
    let (ss, e') := textItems rest
    (s :: ss, e <|> e')

/-- Reads a list of strings. -/
def textsOf (cur : List Bytes) : Item → Reading (List Bytes)
  | .array items => textItems items
  | .simple 22 | .simple 23 => ([], none)
  | .tagged t content =>
    match tagFault? (Item.tagged t content) with
    | some f => (cur, some f)
    | none =>
      if t = 2 ∨ t = 3 then (cur, some (mismatchOf .texts (Item.tagged t content)))
      else textsOf cur content
  | it => (cur, some (mismatchOf .texts it))

/-- Reads a time tag. A simple value other than a boolean, null or undefined reads as its
number, and so does a big unsigned integer that fits. -/
def timetagOf (cur : UInt64) : Item → Reading UInt64
  | .unsigned n => (n.toUInt64, none)
  | .simple n =>
    if n = 22 ∨ n = 23 then (cur, none)
    else if n = 20 ∨ n = 21 then (cur, some (mismatchOf .timetag (Item.simple n)))
    else (n.toUInt64, none)
  | .tagged t content =>
    match tagFault? (Item.tagged t content) with
    | some f => (cur, some f)
    | none =>
      match t, content with
      | 2, .bytes b =>
        if wordValue b < Nat.pow 2 64 then ((wordValue b).toUInt64, none)
        else (cur, some (mismatchOf .timetag (Item.tagged t content)))
      | 3, _ => (cur, some (mismatchOf .timetag (Item.tagged t content)))
      | _, _ => timetagOf cur content
  | it => (cur, some (mismatchOf .timetag it))

/-- A map key as the value it reads as, as far as keys are told apart and shown: text, a signed
or an unsigned 64-bit integer, a boolean, null, another simple value, a float widened to double
precision (by its bits), a moment, or a tag number with its content. -/
inductive MapKey where
  | text (bs : Bytes)
  | int (i : Int)
  | uint (n : Nat)
  | bool (b : Bool)
  | null
  | simple (n : Nat)
  | float (bits : Nat)
  | time (m : Moment)
  | tag (n : Nat) (content : MapKey)
  deriving DecidableEq, Repr

/-- Whether two keys are the same key: equal values of the same kind, floats compared as
numbers. -/
def MapKey.same : MapKey → MapKey → Bool
  | .text a, .text b => a == b
  | .int a, .int b => a == b
  | .uint a, .uint b => a == b
  | .bool a, .bool b => a == b
  | .null, .null => true
  | .simple a, .simple b => a == b
  | .float a, .float b => doubleEq a b
  | .time a, .time b => a.same b
  | .tag n a, .tag m b => n == m && MapKey.same a b
  | _, _ => false

/-- How a key is shown in the duplicate-key message, in Go syntax; `top` tells a key from the
content of a tag, where null is shown with its interface type. -/
def MapKey.shown (top : Bool) : MapKey → String
  | .text bs => Quoted.quote bs
  | .int i => toString i
  | .uint n => hexText n
  | .bool b => if b then "true" else "false"
  | .null => if top then "<nil>" else "interface {}(nil)"
  | .simple n => hexText n
  | .float bits => doubleText bits
  | .time m => m.shown
  | .tag n c =>
    "cbor.Tag\x7bNumber:" ++ hexText n ++ ", Content:" ++ MapKey.shown false c ++ "\x7d"

/-- How a key is shown in the duplicate-key message. -/
def MapKey.text? (k : MapKey) : String := k.shown true

/-- The bits of a float item widened to double precision. -/
def floatBits (info bits : Nat) : Nat :=
  if info = 25 then BinaryFormat.half.toDouble bits
  else if info = 26 then BinaryFormat.single.toDouble bits
  else bits

/-- The moment a time tag's content reads as: RFC 3339 text under tag 0, seconds since 1970
under tag 1 as a 64-bit integer or a float. -/
def momentOf (tag : Nat) : Item → Option Moment
  | .text bs ok => if tag = 0 ∧ ok then Rfc3339.read (Utf8.lossy bs).toList else none
  | .unsigned n => if tag = 1 ∧ n < Nat.pow 2 63 then some (Moment.ofUnix n 0) else none
  | .negative n => if tag = 1 ∧ n < Nat.pow 2 63 then some (Moment.ofUnix (-1 - (n : Int)) 0) else none
  | .float info bits => if tag = 1 then some (Moment.ofFloatSeconds (floatBits info bits)) else none
  | _ => none

/-- The key an item reads as, as a value of any type, if that value can be a map key; `top`
tells a key from the content of a tag. A positive integer reads as unsigned and a negative one as
signed; at the top, the self-described tag 55799 is looked through. Tags 0 and 1 read as moments.
Byte strings, arrays, maps and big integers cannot be keys, and neither can text that is not
UTF-8 nor a time that does not read. -/
def MapKey.read (top : Bool) : Item → Option MapKey
  | .text bs ok => if ok then some (.text bs) else none
  | .unsigned n => some (.uint n)
  | .negative n => if n < Nat.pow 2 63 then some (.int (-1 - (n : Int))) else none
  | .simple n =>
    if n = 20 then some (.bool false) else if n = 21 then some (.bool true)
    else if n = 22 ∨ n = 23 then some .null else some (.simple n)
  | .float info bits => some (.float (floatBits info bits))
  | .tagged t c =>
    if top ∧ t = 55799 then MapKey.read true c
    else if t ≤ 1 then (momentOf t c).map .time
    else if t ≤ 3 then none
    else (MapKey.read false c).map (.tag t)
  | .bytes _ | .array _ | .map _ => none

/-- A positive integer key as the signed 64-bit integer it is compared as: the same 64 bits. -/
def signed64 (n : Nat) : Int := if n < Nat.pow 2 63 then n else (n : Int) - Nat.pow 2 64

/-- The fault of a key met twice, at entry `j` of its map. -/
def duplicate (k : MapKey) (j : Nat) : Fault :=
  .other ("cbor: found duplicate map key " ++ k.text? ++ " at map element index " ++ toString j)

/-- What a record does with the value of a map entry, by its key. -/
inductive KeyStep where
  /-- Read the value into the named field. -/
  | field (name : String)
  /-- Skip the value. -/
  | skip
  /-- Keep the fault if it is the first, and skip the value. -/
  | fault (f : Fault)
  /-- End the record with this fault. -/
  | stop (f : Fault)
  deriving DecidableEq, Repr

/-- The keys of a record's map met so far. -/
structure Tally where
  /-- The fields named so far. -/
  found : List String := []
  /-- The keys met so far that name no field. -/
  others : List MapKey := []
  deriving DecidableEq, Repr

/-- The bytes with ASCII letters in lower case. -/
def asciiLower (bs : Bytes) : Bytes :=
  bs.map fun b => if 0x41 ≤ b ∧ b ≤ 0x5A then b + 0x20 else b

/-- A key that names no field: skipped, unless it was met before. -/
def unknownKey (t : Tally) (j : Nat) (k : MapKey) : KeyStep × Tally :=
  if t.others.any (MapKey.same k) then (.stop (duplicate k j), t)
  else (.skip, { t with others := k :: t.others })

/-- A key that names a field: read into it, unless it was named before. -/
def fieldKey (t : Tally) (j : Nat) (key : Bytes) (name : String) : KeyStep × Tally :=
  if t.found.contains name then (.stop (duplicate (.text key) j), t)
  else (.field name, { t with found := name :: t.found })

/-- What a record with the given field names does with the entry `j` whose key is `key`. -/
def keyStep (fields : List String) (t : Tally) (j : Nat) (key : Item) : KeyStep × Tally :=
  match key with
  | .text bs ok =>
    if !ok then (.fault invalidText, t)
    else match fields.find? (fun f => Utf8.ofString f == bs) with
      | some name => fieldKey t j bs name
      | none =>
        match fields.find? (fun f => Utf8.ofString f == asciiLower bs) with
        | some name => fieldKey t j bs name
        | none => unknownKey t j (.text bs)
  | .unsigned n => unknownKey t j (.int (signed64 n))
  | .negative n =>
    if Nat.pow 2 63 ≤ n then
      (.fault (.mismatch ⟨"negative integer", "int64", none,
        some ("-1-" ++ toString n ++ " overflows Go's int64")⟩), t)
    else unknownKey t j (.int (-1 - (n : Int)))
  | it =>
    let f := Fault.mismatch ⟨it.typeName, "string", none,
      some ("map key is of type " ++ it.typeName ++ " and cannot be used to match struct field name")⟩
    match MapKey.read true it with
    | none => (.fault f, t)
    | some k =>
      match unknownKey t j k with
      | (.stop d, t') => (.stop d, t')
      | (_, t') => (.fault f, t')

/-- Reads the entries of a message map from entry `j`. -/
def messageEntries (t : Tally) (j : Nat) (cur : MessageNode) (err : Option Fault) :
    List (Item × Item) → Reading MessageNode
  | [] => (cur, err)
  | (k, v) :: rest =>
    match keyStep ["address", "args"] t j k with
    | (.stop f, _) => (cur, some f)
    | (.skip, t') => messageEntries t' (j + 1) cur err rest
    | (.fault f, t') => messageEntries t' (j + 1) cur (err <|> some f) rest
    | (.field name, t') =>
      let (cur', e) :=
        if name = "address" then
          let (a, e) := textOf cur.address v
          ({ cur with address := a }, e)
        else
          let (as, e) := textsOf cur.args v
          ({ cur with args := as }, e)
      messageEntries t' (j + 1) cur' (err <|> e.map (Fault.inField "packetdoc.MessageNode" name)) rest

/-- Reads a message record. -/
def messageOf (cur : MessageNode) : Item → Reading MessageNode
  | .map entries => messageEntries {} 0 cur none entries
  | .simple 22 | .simple 23 => (cur, none)
  | .tagged t content =>
    match tagFault? (Item.tagged t content) with
    | some f => (cur, some f)
    | none =>
      if t = 2 ∨ t = 3 then (cur, some (mismatchOf .message (Item.tagged t content)))
      else messageOf cur content
  | it => (cur, some (mismatchOf .message it))

mutual

/-- Reads a node record. -/
def nodeOf (cur : Node) : Item → Reading Node
  | .map entries => nodeEntries {} 0 cur none entries
  | .simple 22 | .simple 23 => (cur, none)
  | .tagged t content =>
    match tagFault? (Item.tagged t content) with
    | some f => (cur, some f)
    | none =>
      if t = 2 ∨ t = 3 then (cur, some (mismatchOf .node (Item.tagged t content)))
      else nodeOf cur content
  | it => (cur, some (mismatchOf .node it))

/-- Reads the entries of a node map from entry `j`. -/
def nodeEntries (t : Tally) (j : Nat) (cur : Node) (err : Option Fault) :
    List (Item × Item) → Reading Node
  | [] => (cur, err)
  | (k, v) :: rest =>
    match keyStep ["message", "bundle"] t j k with
    | (.stop f, _) => (cur, some f)
    | (.skip, t') => nodeEntries t' (j + 1) cur err rest
    | (.fault f, t') => nodeEntries t' (j + 1) cur (err <|> some f) rest
    | (.field name, t') =>
      let (cur', e) :=
        if name = "message" then
          if v.isNull then (Node.mk none cur.bundle, none)
          else
            let (m, e) := messageOf ⟨[], []⟩ v
            (Node.mk (some m) cur.bundle, e)
        else
          if v.isNull then (Node.mk cur.message none, none)
          else
            let (b, e) := bundleOf (.mk 0 []) v
            (Node.mk cur.message (some b), e)
      nodeEntries t' (j + 1) cur' (err <|> e.map (Fault.inField "packetdoc.Node" name)) rest

/-- Reads a bundle record. -/
def bundleOf (cur : BundleNode) : Item → Reading BundleNode
  | .map entries => bundleEntries {} 0 cur none entries
  | .simple 22 | .simple 23 => (cur, none)
  | .tagged t content =>
    match tagFault? (Item.tagged t content) with
    | some f => (cur, some f)
    | none =>
      if t = 2 ∨ t = 3 then (cur, some (mismatchOf .bundle (Item.tagged t content)))
      else bundleOf cur content
  | it => (cur, some (mismatchOf .bundle it))

/-- Reads the entries of a bundle map from entry `j`. -/
def bundleEntries (t : Tally) (j : Nat) (cur : BundleNode) (err : Option Fault) :
    List (Item × Item) → Reading BundleNode
  | [] => (cur, err)
  | (k, v) :: rest =>
    match keyStep ["timetag", "elements"] t j k with
    | (.stop f, _) => (cur, some f)
    | (.skip, t') => bundleEntries t' (j + 1) cur err rest
    | (.fault f, t') => bundleEntries t' (j + 1) cur (err <|> some f) rest
    | (.field name, t') =>
      let (cur', e) := match cur with
        | .mk tt els =>
          if name = "timetag" then
            let (tt', e) := timetagOf tt v
            (BundleNode.mk tt' els, e)
          else
            let (els', e) := nodesOf els v
            (BundleNode.mk tt els', e)
      bundleEntries t' (j + 1) cur' (err <|> e.map (Fault.inField "packetdoc.BundleNode" name)) rest

/-- Reads a list of nodes. -/
def nodesOf (cur : List Node) : Item → Reading (List Node)
  | .array items => nodeItems items
  | .simple 22 | .simple 23 => ([], none)
  | .tagged t content =>
    match tagFault? (Item.tagged t content) with
    | some f => (cur, some f)
    | none =>
      if t = 2 ∨ t = 3 then (cur, some (mismatchOf .nodes (Item.tagged t content)))
      else nodesOf cur content
  | it => (cur, some (mismatchOf .nodes it))

/-- Reads the items of a list of nodes. -/
def nodeItems : List Item → Reading (List Node)
  | [] => ([], none)
  | it :: rest =>
    let (n, e) := nodeOf default it
    let (ns, e') := nodeItems rest
    (n :: ns, e <|> e')

end

end CborForm

mutual

/-- The CBOR item of a node. -/
def Node.toCbor : Node → Cbor.Item
  | .mk m b =>
    let message := match m with
      | some mn => [(Cbor.Item.text (Utf8.ofString "message") true, MessageNode.toCbor mn)]
      | none => []
    let bundle := match b with
      | some bn => [(Cbor.Item.text (Utf8.ofString "bundle") true, BundleNode.toCbor bn)]
      | none => []
    .map (message ++ bundle)

/-- The CBOR item of a message node. -/
def MessageNode.toCbor (m : MessageNode) : Cbor.Item :=
  .map ((.text (Utf8.ofString "address") true, .text m.address true) ::
    if m.args.isEmpty then [] else
      [(.text (Utf8.ofString "args") true, .array (m.args.map fun a => .text a true))])

/-- The CBOR item of a bundle node. -/
def BundleNode.toCbor : BundleNode → Cbor.Item
  | .mk t els =>
    .map ((.text (Utf8.ofString "timetag") true, .unsigned t.toNat) ::
      if els.isEmpty then [] else [(.text (Utf8.ofString "elements") true, .array (Node.listToCbor els))])

/-- The CBOR items of a list of nodes. -/
def Node.listToCbor : List Node → List Cbor.Item
  | [] => []
  | n :: rest => Node.toCbor n :: Node.listToCbor rest

end

/-- The CBOR document of a node. -/
def Node.cborBytes (n : Node) : Bytes := n.toCbor.encode

/-- Reads a node from a CBOR document. -/
def Node.ofCborBytes (bs : Bytes) : Except Failure Node :=
  match Cbor.Item.read bs with
  | .error .empty => .error ⟨.endOfStream, "parse cbor document: EOF", none⟩
  | .error e => .error (Failure.plain ("parse cbor document: " ++ e.message))
  | .ok it =>
    match CborForm.nodeOf default it with
    | (_, some f) => .error (Failure.plain ("parse cbor document: " ++ f.message))
    | (n, none) => .ok n

end SoundControl
