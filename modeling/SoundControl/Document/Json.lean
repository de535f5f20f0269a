import SoundControl.Document.Node
import SoundControl.Json.Reader

/-! # Nodes as JSON

A node is written as an indented JSON object with the members `message` and `bundle`. Reading
matches member names in any case, lets `null` leave a field as it is, and reports the first value
of the wrong kind with the path of members that leads to it. -/

namespace SoundControl

/-- A step from a document's root: a field of a record or an index into a list. -/
inductive PathStep where
  | field (name : String)
  | index (i : Nat)
  deriving DecidableEq, Repr

/-- The text of a step in a dotted path. -/
def PathStep.text : PathStep → String
  | .field name => name
  | .index i => toString i

/-- A JSON value of the wrong kind for the place it stands in. -/
structure KindMismatch where
  /-- The kind of value found, with a number's digits where they matter. -/
  value : String
  /-- The name of the type expected there. -/
  target : String
  /-- Where the value stands. -/
  path : List PathStep
  deriving DecidableEq, Repr

/-- The message of a mismatch: a path that ends in a field is named as a field of the node
record, any other path as a plain dotted path. -/
def KindMismatch.message (e : KindMismatch) : String :=
  let dotted := ".".intercalate ("Node" :: e.path.map PathStep.text)
  let place := match e.path.getLast? with
    | none => "Go value of type "
    | some (.field _) => "Go struct field " ++ dotted ++ " of type "
    | some (.index _) => dotted ++ " of type "
  "json: cannot unmarshal " ++ e.value ++ " into " ++ place ++ e.target

namespace JsonForm

/-- A value read so far, with the first mismatch met while reading it. -/
abbrev Reading (α : Type) := α × Option KindMismatch

/-- The kind of a value as a mismatch names it. -/
def kindName : Json → String
  | .null => "null"
  | .bool _ => "bool"
  | .number _ => "number"
  | .string _ => "string"
  | .array _ => "array"
  | .object _ => "object"

/-- A character folded for a comparison of names in any case. -/
def foldChar (c : Char) : Char :=
  if c = 'ſ' then 's' else if c.toNat = 0x212A then 'k' else c.toLower

/-- Whether a member name matches a field name in any case. -/
def sameName (key field : String) : Bool := key.toList.map foldChar == field.toList

/-- Reads a string field. -/
def stringOf (cur : Bytes) (path : List PathStep) : Json → Reading Bytes
  | .null => (cur, none)
  | .string s => (Utf8.ofString s, none)
  | j => (cur, some ⟨kindName j, "string", path⟩)

/-- Reads the items of a list of strings from index `i`, each into the item that stood there. -/
def stringItems (old : List Bytes) (path : List PathStep) (i : Nat) :
    List Json → Reading (List Bytes)
  | [] => ([], none)
  | j :: rest =>
    let (s, e) := stringOf (old.getD i []) (path ++ [.index i]) j
    let (ss, e') := stringItems old path (i + 1) rest
    (s :: ss, e <|> e')

/-- Reads a list of strings into a backing list that holds `count` texts. An array is read item by
item into what stood at each index, and the texts of the backing list past its length stay after
it; an empty array or `null` leaves an empty list with nothing after it. -/
def stringsOf (cur : List Bytes × Nat) (path : List PathStep) : Json → Reading (List Bytes × Nat)
  | .null => (([], 0), none)
  | .array [] => (([], 0), none)
  | .array items =>
    let (read, e) := stringItems cur.1 path 0 items
    ((read ++ cur.1.drop items.length, items.length), e)
  | j => (cur, some ⟨kindName j, "[]string", path⟩)

/-- The value of decimal digits. -/
def digitsValue (cs : List Char) : Option Nat :=
  if cs.isEmpty || !cs.all Char.isDigit then none
  else some (cs.foldl (fun n c => 10 * n + (c.toNat - 48)) 0)

/-- Reads a time tag: decimal digits below 2^64. -/
def timetagOf (cur : UInt64) (path : List PathStep) : Json → Reading UInt64
  | .null => (cur, none)
  | .number n =>
    match digitsValue n.toList with
    | some v => if v < Nat.pow 2 64 then (v.toUInt64, none)
      else (cur, some ⟨"number " ++ n, "uint64", path⟩)
    | none => (cur, some ⟨"number " ++ n, "uint64", path⟩)
  | j => (cur, some ⟨kindName j, "uint64", path⟩)

/-- A message as reading leaves it: its argument texts are the first `count` of `args`, and the
texts after them are what a longer list read earlier into the same place left behind. -/
structure MessageDraft where
  address : Bytes := []
  args : List Bytes := []
  count : Nat := 0
  deriving Inhabited

mutual

/-- A node as reading leaves it. -/
inductive NodeDraft where
  | mk (message : Option MessageDraft) (bundle : Option BundleDraft)

/-- A bundle as reading leaves it: its elements are the first `count` of `elements`, and the nodes
after them are what a longer list read earlier into the same place left behind. -/
inductive BundleDraft where
  | mk (timetag : UInt64) (elements : List NodeDraft) (count : Nat)

end

instance : Inhabited NodeDraft := ⟨.mk none none⟩

/-- The message a draft stands for. -/
def MessageDraft.toNode (m : MessageDraft) : MessageNode := ⟨m.address, m.args.take m.count⟩

mutual

/-- The node a draft stands for. -/
def NodeDraft.toNode : NodeDraft → Node
  | .mk m none => .mk (m.map MessageDraft.toNode) none
  | .mk m (some b) => .mk (m.map MessageDraft.toNode) (some (BundleDraft.toNode b))

/-- The bundle a draft stands for. -/
def BundleDraft.toNode : BundleDraft → BundleNode
  | .mk t els n => .mk t (NodeDraft.takeNodes n els)

/-- The nodes of the first `n` drafts. -/
def NodeDraft.takeNodes : Nat → List NodeDraft → List Node
  | 0, _ => []
  | _, [] => []
  | n + 1, d :: rest => NodeDraft.toNode d :: NodeDraft.takeNodes n rest

end

/-- Reads the members of a message object. -/
def messageFields (path : List PathStep) (cur : MessageDraft) :
    List (String × Json) → Reading MessageDraft
  | [] => (cur, none)
  | (k, v) :: rest =>
    let (cur', e) :=
      if sameName k "address" then
        let (a, e) := stringOf cur.address (path ++ [.field k]) v
        ({ cur with address := a }, e)
      else if sameName k "args" then
        let ((as, n), e) := stringsOf (cur.args, cur.count) (path ++ [.field k]) v
        ({ cur with args := as, count := n }, e)
      else (cur, none)
    let (last, e') := messageFields path cur' rest
    (last, e <|> e')

/-- Reads a message into the message that stood there, if any. -/
def messageOf (cur : Option MessageDraft) (path : List PathStep) :
    Json → Reading (Option MessageDraft)
  | .null => (none, none)
  | .object ms =>
    let (m, e) := messageFields path (cur.getD {}) ms
    (some m, e)
  | j => (cur, some ⟨kindName j, "packetdoc.MessageNode", path⟩)

mutual

/-- Reads a node into the node that stood there. -/
def nodeOf (cur : NodeDraft) (path : List PathStep) : Json → Reading NodeDraft
  | .null => (cur, none)
  | .object ms => nodeFields path cur ms
  | j => (cur, some ⟨kindName j, "packetdoc.Node", path⟩)

/-- Reads the members of a node object. -/
def nodeFields (path : List PathStep) (cur : NodeDraft) :
    List (String × Json) → Reading NodeDraft
  | [] => (cur, none)
  | (k, v) :: rest =>
    let (cur', e) := match cur with
      | .mk m b =>
        if sameName k "message" then
          let (m', e) := messageOf m (path ++ [.field k]) v
          (NodeDraft.mk m' b, e)
        else if sameName k "bundle" then
          let (b', e) := bundleOf b (path ++ [.field k]) v
          (NodeDraft.mk m b', e)
        else (cur, none)
    let (last, e') := nodeFields path cur' rest
    (last, e <|> e')

/-- Reads a bundle into the bundle that stood there, if any. -/
def bundleOf (cur : Option BundleDraft) (path : List PathStep) :
    Json → Reading (Option BundleDraft)
  | .null => (none, none)
  | .object ms =>
    let (b, e) := bundleFields path (cur.getD (.mk 0 [] 0)) ms
    (some b, e)
  | j => (cur, some ⟨kindName j, "packetdoc.BundleNode", path⟩)

/-- Reads the members of a bundle object. -/
def bundleFields (path : List PathStep) (cur : BundleDraft) :
    List (String × Json) → Reading BundleDraft
  | [] => (cur, none)
  | (k, v) :: rest =>
    let (cur', e) := match cur with
      | .mk t els n =>
        if sameName k "timetag" then
          let (t', e) := timetagOf t (path ++ [.field k]) v
          (BundleDraft.mk t' els n, e)
        else if sameName k "elements" then
          let ((els', n'), e) := elementsOf els n (path ++ [.field k]) v
          (BundleDraft.mk t els' n', e)
        else (cur, none)
    let (last, e') := bundleFields path cur' rest
    (last, e <|> e')

/-- Reads a list of nodes into a backing list that holds `count` nodes, as `stringsOf` reads a
list of strings. -/
def elementsOf (cur : List NodeDraft) (count : Nat) (path : List PathStep) :
    Json → Reading (List NodeDraft × Nat)
  | .null => (([], 0), none)
  | .array [] => (([], 0), none)
  | .array (j :: js) =>
    let (read, e) := elementItems cur path 0 (j :: js)
    ((read ++ cur.drop (js.length + 1), js.length + 1), e)
  | j => ((cur, count), some ⟨kindName j, "[]packetdoc.Node", path⟩)

/-- Reads the items of a list of nodes from index `i`, each into the node that stood there. -/
def elementItems (old : List NodeDraft) (path : List PathStep) (i : Nat) :
    List Json → Reading (List NodeDraft)
  | [] => ([], none)
  | j :: rest =>
    let (n, e) := nodeOf (old.getD i default) (path ++ [.index i]) j
    let (ns, e') := elementItems old path (i + 1) rest
    (n :: ns, e <|> e')

end

end JsonForm

mutual

/-- The JSON value of a node. -/
def Node.toJson : Node → Json
  | .mk m b =>
    let message := match m with
      | some mn => [("message", MessageNode.toJson mn)]
      | none => []
    let bundle := match b with
      | some bn => [("bundle", BundleNode.toJson bn)]
      | none => []
    .object (message ++ bundle)

/-- The JSON value of a message node. -/
def MessageNode.toJson (m : MessageNode) : Json :=
  .object (("address", Json.ofBytes m.address) ::
    if m.args.isEmpty then [] else [("args", .array (m.args.map Json.ofBytes))])

/-- The JSON value of a bundle node. -/
def BundleNode.toJson : BundleNode → Json
  | .mk t els =>
    .object (("timetag", Json.ofNat t.toNat) ::
      if els.isEmpty then [] else [("elements", .array (Node.listToJson els))])

/-- The JSON values of a list of nodes. -/
def Node.listToJson : List Node → List Json
  | [] => []
  | n :: rest => Node.toJson n :: Node.listToJson rest

end

/-- The JSON document of a node: indented by two spaces, with a final line break. -/
def Node.jsonText (n : Node) : String := Json.pretty 0 n.toJson ++ "\n"

/-- Reads a node from a JSON document. -/
def Node.ofJsonText (bs : Bytes) : Except Failure Node :=
  match JsonReader.read bs with
  | .error msg => .error (Failure.plain ("parse json document: " ++ msg))
  | .ok j =>
    match JsonForm.nodeOf default [] j with
    | (_, some e) => .error (Failure.plain ("parse json document: " ++ e.message))
    | (n, none) => .ok n.toNode

end SoundControl
