import SoundControl.Document.Argument

/-! # Document nodes

A packet as a document: a node holds a message node (an address and argument texts) or a bundle
node (a time tag and element nodes), and turns back into a packet by reading those texts. -/

namespace SoundControl

/-- A message as a document node. -/
structure MessageNode where
  address : Bytes
  args : List Bytes := []
  deriving DecidableEq, Repr, Inhabited

mutual

/-- A document node: a message node, a bundle node, or, wrongly, both or neither. -/
inductive Node where
  | mk (message : Option MessageNode) (bundle : Option BundleNode)

/-- A bundle as a document node. -/
inductive BundleNode where
  | mk (timetag : UInt64) (elements : List Node)

end

instance : Inhabited Node := ⟨.mk none none⟩

namespace Node

/-- The node's message part. -/
def message : Node → Option MessageNode
  | .mk m _ => m

/-- The node's bundle part. -/
def bundle : Node → Option BundleNode
  | .mk _ b => b

end Node

/-- The failure for a node that holds neither or both. -/
def invalidNode : Failure := ⟨.invalidNode, "node must hold exactly one of message or bundle", none⟩

mutual

/-- The node of a packet. -/
def Node.ofPacket : Packet → Except Failure Node
  | .message m => .ok (.mk (some ⟨m.address, m.args.map Argument.formatText⟩) none)
  | .bundle t els =>
    (Node.ofElements 0 els).map fun ns => .mk none (some (.mk t.bits ns))
  | .absent => .error (Failure.plain "unsupported packet <nil>")
  -- a reference of a known kind is taken as that kind, and its fields are read through it
  | .nullMessage => .error Failure.nilDereference
  | .nullBundle => .error Failure.nilDereference

/-- The nodes of bundle elements from index `i` on. -/
def Node.ofElements (i : Nat) : List Packet → Except Failure (List Node)
  | [] => .ok []
  | p :: rest =>
    match Node.ofPacket p with
    | .error f => .error (f.wrap ("element " ++ toString i ++ ": "))
    | .ok n => (Node.ofElements (i + 1) rest).map (n :: ·)

end

/-- The arguments of argument texts from index `i` on; failures name the address. -/
def MessageNode.arguments (address : Bytes) (i : Nat) : List Bytes → Except Failure (List Argument)
  | [] => .ok []
  | s :: rest =>
    match Argument.parseText s with
    | .error f => .error (f.wrap (Utf8.lossy address ++ " argument " ++ toString i ++ ": "))
    | .ok a => (MessageNode.arguments address (i + 1) rest).map (a :: ·)

mutual

/-- The packet of a node. -/
def Node.toPacket : Node → Except Failure Packet
  | .mk (some m) none =>
    (MessageNode.arguments m.address 0 m.args).map fun args =>
      .message ⟨m.address, .ofItems (args.map some)⟩
  | .mk none (some (.mk t els)) =>
    (Node.elementsToPackets 0 els).map fun ps => .bundle ⟨t⟩ ps
  | _ => .error invalidNode

/-- The packets of element nodes from index `i` on. -/
def Node.elementsToPackets (i : Nat) : List Node → Except Failure (List Packet)
  | [] => .ok []
  | n :: rest =>
    match Node.toPacket n with
    | .error f => .error (f.wrap ("element " ++ toString i ++ ": "))
    | .ok p => (Node.elementsToPackets (i + 1) rest).map (p :: ·)

end

/-- The document formats. -/
inductive DocFormat where
  | text
  | json
  | yaml
  | cbor
  deriving DecidableEq, Repr

/-- The name of a document format. -/
def DocFormat.name : DocFormat → String
  | .text => "text"
  | .json => "json"
  | .yaml => "yaml"
  | .cbor => "cbor"

/-- The document format of a name, exactly as spelled. -/
def DocFormat.ofName? : String → Option DocFormat
  | "text" => some .text
  | "json" => some .json
  | "yaml" => some .yaml
  | "cbor" => some .cbor
  | _ => none

/-- The extension of a path: from its last dot, if that dot comes after the last slash. -/
def pathExtension (path : String) : String :=
  let rev := path.toList.reverse
  let tail := rev.takeWhile (· != '/')
  if tail.contains '.' then String.ofList ((tail.takeWhile (· != '.')).reverse.cons '.')
  else ""

/-- The format that a path's extension names, in either case, or `default`. -/
def formatFromPath (path default : String) : String :=
  match (pathExtension path).toList.map Char.toLower with
  | ['.', 'j', 's', 'o', 'n'] => "json"
  | ['.', 'y', 'a', 'm', 'l'] => "yaml"
  | ['.', 'y', 'm', 'l'] => "yaml"
  | ['.', 'c', 'b', 'o', 'r'] => "cbor"
  | _ => default

end SoundControl
