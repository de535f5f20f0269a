import SoundControl.Document.Node
import SoundControl.Yaml.Tree
import SoundControl.Yaml.Emit
import SoundControl.Number.Format

/-! # Nodes as YAML

Reading a node from the first document of a YAML stream, field by field, with type errors
collected and reported together, and writing a node as a block mapping. A null leaves a field
as it is, and aliases and merge keys are followed. -/

namespace SoundControl

namespace YamlForm

open Yaml

/-- A place a YAML node is read into: a node, a message or bundle part that may be absent, a
present one, a text, a time tag, or a list of texts or nodes. -/
inductive Place where
  | node (n : Node)
  | message (m : Option MessageNode)
  | messageRecord (m : MessageNode)
  | bundle (b : Option BundleNode)
  | bundleRecord (b : BundleNode)
  | text (s : Bytes)
  | timetag (t : UInt64)
  | texts (l : List Bytes)
  | nodes (l : List Node)

namespace Place

/-- The name of a place's type in error messages. -/
def typeName : Place → String
  | .node _ => "packetdoc.Node"
  | .message _ => "*packetdoc.MessageNode"
  | .messageRecord _ => "packetdoc.MessageNode"
  | .bundle _ => "*packetdoc.BundleNode"
  | .bundleRecord _ => "packetdoc.BundleNode"
  | .text _ => "string"
  | .timetag _ => "uint64"
  | .texts _ => "[]string"
  | .nodes _ => "[]packetdoc.Node"

/-- Whether a place is a record with fields. -/
def isRecord : Place → Bool
  | .node _ | .messageRecord _ | .bundleRecord _ => true
  | _ => false

/-- The field names of a record. -/
def fieldNames : Place → List String
  | .node _ => ["message", "bundle"]
  | .messageRecord _ => ["address", "args"]
  | .bundleRecord _ => ["timetag", "elements"]
  | _ => []

/-- The field of a record by its name. -/
def field (p : Place) (name : String) : Place :=
  match p, name with
  | .node n, "message" => .message n.message
  | .node n, "bundle" => .bundle n.bundle
  | .messageRecord m, "address" => .text m.address
  | .messageRecord m, "args" => .texts m.args
  | .bundleRecord (.mk t _), "timetag" => .timetag t
  | .bundleRecord (.mk _ els), "elements" => .nodes els
  | p, _ => p

/-- A record with a field replaced. -/
def setField (p : Place) (name : String) (v : Place) : Place :=
  match p, name, v with
  | .node (.mk _ b), "message", .message m => .node (.mk m b)
  | .node (.mk m _), "bundle", .bundle b => .node (.mk m b)
  | .messageRecord r, "address", .text s => .messageRecord { r with address := s }
  | .messageRecord r, "args", .texts l => .messageRecord { r with args := l }
  | .bundleRecord (.mk _ els), "timetag", .timetag t => .bundleRecord (.mk t els)
  | .bundleRecord (.mk t _), "elements", .nodes l => .bundleRecord (.mk t l)
  | p, _, _ => p

/-- The node a place holds, or an empty one. -/
def toNode : Place → Node
  | .node n => n
  | _ => default

/-- The message a place holds, or an empty one. -/
def toMessage : Place → MessageNode
  | .messageRecord m => m
  | _ => { address := [] }

/-- The bundle a place holds, or an empty one. -/
def toBundle : Place → BundleNode
  | .bundleRecord b => b
  | _ => .mk 0 []

/-- The text a place holds, or none. -/
def toText : Place → Bytes
  | .text s => s
  | _ => []

/-- A place after a null: absent parts and lists are cleared, and nothing else is read. -/
def null : Place → Bool × Place
  | .message _ => (true, .message none)
  | .bundle _ => (true, .bundle none)
  | .texts _ => (true, .texts [])
  | .nodes _ => (true, .nodes [])
  | p => (false, p)

end Place

/-- A value that a node is read into when no type is asked for: a string, an integer (from
`2^63` on an unsigned one), a double by its bits, a boolean, null, a list, or a map whose keys
are all strings or of any type. The keys of a merge's mapping are read this way. -/
inductive AnyValue where
  | text (s : Bytes)
  | int (i : Int)
  | float (bits : Nat)
  | bool (b : Bool)
  | null
  | list (items : List AnyValue)
  | map (stringKeys : Bool) (entries : List (AnyValue × AnyValue))

namespace AnyValue

/-- Whether two values are the same map key: equal scalars of the same kind, floats compared as
numbers. Lists and maps are never the same as anything. -/
def same : AnyValue → AnyValue → Bool
  | .text a, .text b => a == b
  | .int a, .int b => a == b
  | .float a, .float b => doubleEq a b
  | .bool a, .bool b => a == b
  | .null, .null => true
  | _, _ => false

/-- The rank of a value's type in the order of map keys: null first, then booleans, floats,
signed integers, strings and unsigned integers. -/
def typeRank : AnyValue → Nat
  | .null => 0
  | .bool _ => 1
  | .float _ => 2
  | .int i => if i < Nat.pow 2 63 then 3 else 5
  | .text _ => 4
  | _ => 6

/-- Whether a map key comes before another when a map is shown: by type, then by value. -/
def before (a b : AnyValue) : Bool :=
  if a.typeRank ≠ b.typeRank then a.typeRank < b.typeRank
  else
    match a, b with
    | .bool x, .bool y => !x && y
    | .float x, .float y => doubleBefore x y
    | .int x, .int y => x < y
    | .text x, .text y => decide (x < y)
    | _, _ => false

/-- The name of the type of a list or map value. -/
def typeName : AnyValue → String
  | .list _ => "[]interface \x7b\x7d"
  | .map true _ => "map[string]interface \x7b\x7d"
  | .map false _ => "map[interface \x7b\x7d]interface \x7b\x7d"
  | _ => ""

mutual

/-- A value written out as source, the way the map-key errors show it: strings quoted,
unsigned integers in hex, lists and maps with their type before their items, the entries of
a map in key order, and null as a nil interface. -/
def shown : AnyValue → String
  | .text s => Quoted.quote s
  | .int i => if i < Nat.pow 2 63 then toString i else hexText i.toNat
  | .float bits => doubleText bits
  | .bool b => if b then "true" else "false"
  | .null => "interface \x7b\x7d(nil)"
  | .list items => "[]interface \x7b\x7d\x7b" ++ ", ".intercalate (shownItems items) ++ "\x7d"
  | .map sk es =>
    let sorted := (shownEntries es).mergeSort fun x y => !before y.1 x.1
    (if sk then "map[string]interface \x7b\x7d" else "map[interface \x7b\x7d]interface \x7b\x7d") ++
      "\x7b" ++ ", ".intercalate (sorted.map Prod.snd) ++ "\x7d"

/-- The items of a list written out. -/
def shownItems : List AnyValue → List String
  | [] => []
  | v :: rest => shown v :: shownItems rest

/-- The entries of a map written out, each beside its key. -/
def shownEntries : List (AnyValue × AnyValue) → List (AnyValue × String)
  | [] => []
  | e :: rest => shownEntry e :: shownEntries rest

/-- An entry of a map written out as key and value, beside its key. -/
def shownEntry : AnyValue × AnyValue → AnyValue × String
  | (k, v) => (k, shown k ++ ":" ++ shown v)

end

/-- Sets the value of a key in a map's entries: in place of an entry with the same key, or
after the others. -/
def setEntry (k v : AnyValue) : List (AnyValue × AnyValue) → List (AnyValue × AnyValue)
  | [] => [(k, v)]
  | (k', v') :: rest => if same k' k then (k', v) :: rest else (k', v') :: setEntry k v rest

/-- Whether a value is a list or a map, which cannot be hashed. -/
def isComposite : AnyValue → Bool
  | .list _ | .map _ _ => true
  | _ => false

end AnyValue

/-- The state of reading: the errors collected, how many nodes were read and how many of them
through aliases, the aliases being followed, and, while a merge is read, the keys it may no
longer set. -/
structure Reading where
  errors : Array String := #[]
  count : Nat := 0
  aliasCount : Nat := 0
  aliasDepth : Nat := 0
  active : List Nat := []
  merged : Option (List AnyValue) := none

/-- Why reading stops at once. -/
inductive Stop where
  /-- A failure of the document, with its message. -/
  | failure (message : String)
  /-- A runtime fault, with its message: a list or map met where a key is hashed. -/
  | fault (message : String)

/-- The reading monad; a stop ends reading. -/
abbrev ReadM := StateT Reading (Except Stop)

/-- Stops reading with a failure. -/
def failWith {α : Type} (message : String) : ReadM α := throw (.failure message)

/-- Whether the share of nodes read through aliases is more than a document of that size
may have: 99% up to 400000 nodes, 10% from 4000000 on, and in between a share falling
evenly from the one to the other. -/
def tooManyAliases (aliasCount count : Nat) : Bool :=
  if count ≤ 400000 then 100 * aliasCount > 99 * count
  else if count ≥ 4000000 then 10 * aliasCount > count
  else aliasCount * 360000000 > count * (356400000 - 89 * (count - 400000))

/-- Counts a node read, and stops when aliases have been followed too often. -/
def countRead : ReadM Unit := do
  let s ← get
  let count := s.count + 1
  let aliasCount := if s.aliasDepth > 0 then s.aliasCount + 1 else s.aliasCount
  set { s with count := count, aliasCount := aliasCount }
  if aliasCount > 100 ∧ count > 1000 ∧ tooManyAliases aliasCount count then
    failWith "yaml: document contains excessive aliasing"

/-- Starts following an alias, unless it is one being followed already. -/
def enterAlias (name : String) (occurrence : Nat) : ReadM Unit := do
  let s ← get
  if s.active.contains occurrence then
    failWith ("yaml: anchor '" ++ name ++ "' value contains itself")
  set { s with active := occurrence :: s.active, aliasDepth := s.aliasDepth + 1 }

/-- Stops following an alias. -/
def leaveAlias (occurrence : Nat) : ReadM Unit :=
  modify fun s => { s with active := s.active.erase occurrence, aliasDepth := s.aliasDepth - 1 }

/-- Collects errors. -/
def addErrors (es : List String) : ReadM Unit :=
  modify fun s => { s with errors := s.errors ++ es.toArray }

/-- A scalar's text for an error message: cut to seven bytes and `...` when longer than ten. -/
def clip (v : String) : String :=
  let bs := Utf8.ofString v
  if bs.length > 10 then Utf8.lossy (bs.take 7) ++ "..." else v

/-- The error of a node that does not fit its place. -/
def typeError (t : Tree) (fallback : String) (p : Place) : ReadM Unit :=
  let tag := if t.tag ≠ "" then t.tag else fallback
  let value := if tag ≠ "!!seq" ∧ tag ≠ "!!map" then " `" ++ clip t.value ++ "`" else ""
  addErrors ["line " ++ toString t.line ++ ": cannot unmarshal " ++ shortTag tag ++ value ++
    " into " ++ p.typeName]

/-- The keys of a mapping's content. -/
def keysOf : List Tree → List Tree
  | k :: _ :: rest => k :: keysOf rest
  | _ => []

/-- The errors of keys that repeat an earlier key of the same kind and text. -/
def repeatedKeys (content : List Tree) : List String :=
  let rec go : List Tree → List String
    | [] => []
    | k :: later =>
      (later.filter fun j => j.kind = k.kind ∧ j.value = k.value).map (fun j =>
        "line " ++ toString j.line ++ ": mapping key " ++ Quoted.quoteString j.value ++
          " already defined at line " ++ toString k.line) ++ go later
  go (keysOf content)

/-- Whether a key is the merge key `<<`. -/
def isMergeKey (k : Tree) : Bool :=
  match k with
  | .scalar tag value _ _ => value = "<<" && tag = "!!merge"
  | _ => false

/-- The failure of a merge of something else than mappings. -/
def wantMap : String := "yaml: map merge requires map or sequence of maps as the value"

/-- The failure of bad base64 under `!!binary`. -/
def badBase64 : String := "yaml: !!binary value contains invalid base64 data"

/-- The failure when the reading runs out of steps. -/
def exhausted : String := "yaml: document too deeply nested"

/-- A double read as a 64-bit unsigned integer when it is no larger than `2^64`: truncated
toward zero, negative values wrapping around, and values whose truncation leaves the signed
range taken as `2^63`. -/
def floatToWord (bits : Nat) : Option UInt64 :=
  match BinaryFormat.double.classify bits with
  | .nan _ _ => none
  | .infinite neg => if neg then some 0x8000000000000000 else none
  | .finite neg m e =>
    let (a, b) := powTwo e
    let magnitude := m * a / b
    if !neg ∧ m * a > Nat.pow 2 64 * b then none
    else if neg then
      if magnitude ≤ Nat.pow 2 63 then some (UInt64.ofNat (Nat.pow 2 64 - magnitude))
      else some 0x8000000000000000
    else if magnitude < Nat.pow 2 64 then some (UInt64.ofNat magnitude)
    else some 0x8000000000000000

/-- Reads a scalar into a place. -/
def scalarInto (t : Tree) (tag value : String) (p : Place) : ReadM (Bool × Place) := do
  let (rtag, resolved, binary) ← (if tag = "!!str" then pure ("!!str", Resolved.text value, none)
    else
      match resolve tag value with
      | .error msg => failWith msg
      | .ok (rtag, v) =>
        if rtag = "!!binary" then
          match Base64.decode value.toList with
          | some bs => pure (rtag, v, some bs)
          | none => failWith badBase64
        else pure (rtag, v, none) : ReadM (String × Resolved × Option Bytes))
  if resolved = .null then return p.null
  match p with
  | .text _ => return (true, .text (binary.getD (Utf8.ofString value)))
  | .timetag _ =>
    let word : Option UInt64 := match resolved with
      | .int i => if 0 ≤ i then some (UInt64.ofNat i.toNat) else none
      | .float bits => floatToWord bits
      | _ => none
    match word with
    | some w => return (true, .timetag w)
    | none => typeError t rtag p; return (false, p)
  | _ => typeError t rtag p; return (false, p)

/-- A scalar read as a value of no fixed type: a string when it is tagged as one, its bytes
under `!!binary`, the text itself for a timestamp, and otherwise what it resolves to. -/
def scalarValue (tag value : String) : ReadM AnyValue :=
  if tag = "!!str" then pure (.text (Utf8.ofString value))
  else
    match resolve tag value with
    | .error msg => failWith msg
    | .ok (rtag, v) =>
      if rtag = "!!binary" then
        match Base64.decode value.toList with
        | some bs => pure (.text bs)
        | none => failWith badBase64
      else
        pure (match v with
          | .null => .null
          | .bool b => .bool b
          | .int i => .int i
          | .float bits => .float bits
          | .text t => .text (Utf8.ofString t)
          | .timestamp _ => .text (Utf8.ofString value))

/-- The tag of a node, through an alias to the node it names. -/
def tagThrough (doc : Document) : Tree → String
  | .alias _ _ target _ => (doc.target target).tag
  | t => t.tag

/-- Whether a mapping is read as a map with string keys: all its keys are tagged as strings or
are merge keys. -/
def stringKeyed (doc : Document) (content : List Tree) : Bool :=
  (keysOf content).all fun k => tagThrough doc k = "!!str" || tagThrough doc k = "!!merge"

/-- Stops with the runtime fault of hashing a list or a map; other values hash. -/
def hashable (v : AnyValue) : ReadM Unit :=
  if v.isComposite then throw (.fault ("runtime error: hash of unhashable type " ++ v.typeName))
  else pure ()

/-- Adds a key to the set a merge may no longer set, when a merge is being read. -/
def addMerged (k : AnyValue) : ReadM Unit :=
  modify fun s => { s with
    merged := s.merged.map fun set => if set.any k.same then set else k :: set }

mutual

/-- Reads a node into a place: whether it was read, and the place after it. -/
def unmarshal (doc : Document) : Nat → Tree → Place → ReadM (Bool × Place)
  | 0, _, _ => failWith exhausted
  | fuel + 1, t, p => do
    countRead
    match t with
    | .alias name occurrence target _ =>
      enterAlias name occurrence
      let r ← unmarshal doc fuel (doc.target target) p
      leaveAlias occurrence
      return r
    | _ =>
      if t.tag = "!!null" then content doc fuel t p
      else
        match p with
        | .message m =>
          let (ok, r) ← content doc fuel t (.messageRecord (m.getD { address := [] }))
          return (ok, .message (some r.toMessage))
        | .bundle b =>
          let (ok, r) ← content doc fuel t (.bundleRecord (b.getD (.mk 0 [])))
          return (ok, .bundle (some r.toBundle))
        | _ => content doc fuel t p

/-- Reads a scalar, mapping or sequence into a place. -/
def content (doc : Document) : Nat → Tree → Place → ReadM (Bool × Place)
  | 0, _, _ => failWith exhausted
  | fuel + 1, t, p =>
    match t with
    | .scalar tag value _ _ => scalarInto t tag value p
    | .mapping _ c _ => mapping doc fuel t c p
    | .sequence _ items _ => sequence doc fuel t items p
    | .alias _ _ _ _ => pure (false, p)

/-- Reads a mapping into a place. -/
def mapping (doc : Document) : Nat → Tree → List Tree → Place → ReadM (Bool × Place)
  | 0, _, _, _ => failWith exhausted
  | fuel + 1, t, c, p => do
    let repeated := repeatedKeys c
    if !repeated.isEmpty then
      addErrors repeated
      return (false, p)
    if !p.isRecord then
      typeError t "!!map" p
      return (false, p)
    let saved := (← get).merged
    modify fun s => { s with merged := none }
    let (merged, mergeNode, p) ← entries doc fuel saved [] none p c
    modify fun s => { s with merged := merged }
    match mergeNode with
    | none => return (true, p)
    | some m =>
      let p ← merge doc fuel c m p
      return (true, p)

/-- Reads the entries of a mapping into the fields of a record. -/
def entries (doc : Document) : Nat → Option (List AnyValue) → List String → Option Tree → Place →
    List Tree → ReadM (Option (List AnyValue) × Option Tree × Place)
  | 0, _, _, _, _, _ => failWith exhausted
  | fuel + 1, merged, done, mergeNode, p, k :: v :: rest => do
    if isMergeKey k then entries doc fuel merged done (some v) p rest
    else
      let (ok, name) ← unmarshal doc fuel k (.text [])
      let key := name.toText
      let seen := match merged with
        | some set => set.any (AnyValue.same (.text key))
        | none => false
      if !ok || seen then entries doc fuel merged done mergeNode p rest
      else
        let merged := merged.map (.text key :: ·)
        match p.fieldNames.find? (fun f => Utf8.ofString f = key) with
        | none => entries doc fuel merged done mergeNode p rest
        | some f =>
          if done.contains f then
            addErrors ["line " ++ toString k.line ++ ": field " ++ f ++ " already set in type " ++
              p.typeName]
            entries doc fuel merged done mergeNode p rest
          else
            let (_, v') ← unmarshal doc fuel v (p.field f)
            entries doc fuel merged (f :: done) mergeNode (p.setField f v') rest
  | _, merged, _, mergeNode, p, _ => pure (merged, mergeNode, p)

/-- Merges the mappings a merge key names into a record, past the keys of its mapping. -/
def merge (doc : Document) : Nat → List Tree → Tree → Place → ReadM Place
  | 0, _, _, _ => failWith exhausted
  | fuel + 1, parent, m, p => do
    let saved := (← get).merged
    if saved.isNone then
      modify fun s => { s with merged := some [] }
      parentKeys doc fuel parent
    let p ← match m with
      | .mapping _ _ _ => do
        let (_, p) ← unmarshal doc fuel m p
        pure p
      | .alias _ _ target _ =>
        if (doc.target target).isMapping then do
          let (_, p) ← unmarshal doc fuel m p
          pure p
        else failWith wantMap
      | .sequence _ items _ => mergeItems doc fuel items p
      | _ => failWith wantMap
    if saved.isNone then modify fun s => { s with merged := none }
    return p

/-- Merges each mapping of a sequence in turn. -/
def mergeItems (doc : Document) : Nat → List Tree → Place → ReadM Place
  | 0, _, _ => failWith exhausted
  | _ + 1, [], p => pure p
  | fuel + 1, item :: rest, p => do
    let isMap := match item with
      | .alias _ _ target _ => (doc.target target).isMapping
      | .mapping _ _ _ => true
      | _ => false
    if !isMap then failWith wantMap
    let (_, p) ← unmarshal doc fuel item p
    mergeItems doc fuel rest p

/-- Reads the keys of a merge's mapping as values of no fixed type into the set of keys the
merge may no longer set; a key that is a list or a map cannot be hashed, which is a fault. -/
def parentKeys (doc : Document) : Nat → List Tree → ReadM Unit
  | 0, _ => failWith exhausted
  | fuel + 1, k :: _ :: rest => do
    match ← anyValue doc fuel k with
    | some v =>
      hashable v
      addMerged v
    | none => pure ()
    parentKeys doc fuel rest
  | _ + 1, _ => pure ()

/-- Reads a node as a value of no fixed type; none when it is not read. -/
def anyValue (doc : Document) : Nat → Tree → ReadM (Option AnyValue)
  | 0, _ => failWith exhausted
  | fuel + 1, t => do
    countRead
    match t with
    | .alias name occurrence target _ =>
      enterAlias name occurrence
      let r ← anyValue doc fuel (doc.target target)
      leaveAlias occurrence
      return r
    | .scalar tag value _ _ => some <$> scalarValue tag value
    | .sequence _ items _ => do
      let l ← anyItems doc fuel [] items
      return some (.list l)
    | .mapping _ c _ =>
      let repeated := repeatedKeys c
      if !repeated.isEmpty then
        addErrors repeated
        return none
      let sk := stringKeyed doc c
      let es ← anyMapping doc fuel c sk []
      return some (.map sk es)

/-- Reads the items of a sequence as values of no fixed type, dropping those not read. -/
def anyItems (doc : Document) : Nat → List AnyValue → List Tree → ReadM (List AnyValue)
  | 0, _, _ => failWith exhausted
  | _ + 1, acc, [] => pure acc.reverse
  | fuel + 1, acc, item :: rest => do
    let v ← anyValue doc fuel item
    anyItems doc fuel (match v with | some v => v :: acc | none => acc) rest

/-- Reads the entries of a mapping into a map, then what its merge key names. The keys of a
merge being read are the keys the map may no longer set, and each key set joins them; no
merge is being read for what the entries hold. -/
def anyMapping (doc : Document) : Nat → List Tree → Bool → List (AnyValue × AnyValue) →
    ReadM (List (AnyValue × AnyValue))
  | 0, _, _, _ => failWith exhausted
  | fuel + 1, c, sk, es => do
    let saved := (← get).merged
    modify fun s => { s with merged := none }
    let (merged, mergeNode, es) ← anyEntries doc fuel saved sk none es c
    modify fun s => { s with merged := merged }
    match mergeNode with
    | none => return es
    | some m => anyMerge doc fuel c m sk es

/-- Reads the entries of a mapping into a map: a key not read, or one a merge may no longer
set, is passed over; a list or map key is an invalid key. A value that is not read leaves the
map as it is, unless it is tagged null and its key is new. -/
def anyEntries (doc : Document) : Nat → Option (List AnyValue) → Bool → Option Tree →
    List (AnyValue × AnyValue) → List Tree →
    ReadM (Option (List AnyValue) × Option Tree × List (AnyValue × AnyValue))
  | 0, _, _, _, _, _ => failWith exhausted
  | fuel + 1, merged, sk, mergeNode, es, k :: v :: rest => do
    if isMergeKey k then anyEntries doc fuel merged sk (some v) es rest
    else
      let key ← (if sk then do
          let (ok, name) ← unmarshal doc fuel k (.text [])
          pure (if ok then some (AnyValue.text name.toText) else none)
        else anyValue doc fuel k : ReadM (Option AnyValue))
      match key with
      | none => anyEntries doc fuel merged sk mergeNode es rest
      | some key =>
        let seen ← match merged with
          | some set => do
            hashable key
            pure (set.any key.same)
          | none => pure false
        if seen then anyEntries doc fuel merged sk mergeNode es rest
        else
          let merged := merged.map (key :: ·)
          if key.isComposite then failWith ("yaml: invalid map key: " ++ key.shown)
          let value ← anyValue doc fuel v
          let es := match value with
            | some value => AnyValue.setEntry key value es
            | none =>
              if tagThrough doc v = "!!null" && !es.any (fun e => e.1.same key) then
                AnyValue.setEntry key .null es
              else es
          anyEntries doc fuel merged sk mergeNode es rest
  | _, merged, _, mergeNode, es, _ => pure (merged, mergeNode, es)

/-- Merges the mappings a merge key names into a map, past the keys of its mapping. -/
def anyMerge (doc : Document) : Nat → List Tree → Tree → Bool → List (AnyValue × AnyValue) →
    ReadM (List (AnyValue × AnyValue))
  | 0, _, _, _, _ => failWith exhausted
  | fuel + 1, parent, m, sk, es => do
    let saved := (← get).merged
    if saved.isNone then
      modify fun s => { s with merged := some [] }
      parentKeys doc fuel parent
    let es ← match m with
      | .mapping _ _ _ => anyInto doc fuel m sk es
      | .alias _ _ target _ =>
        if (doc.target target).isMapping then anyInto doc fuel m sk es
        else failWith wantMap
      | .sequence _ items _ => anyMergeItems doc fuel items sk es
      | _ => failWith wantMap
    if saved.isNone then modify fun s => { s with merged := none }
    return es

/-- Merges each mapping of a sequence into a map in turn. -/
def anyMergeItems (doc : Document) : Nat → List Tree → Bool → List (AnyValue × AnyValue) →
    ReadM (List (AnyValue × AnyValue))
  | 0, _, _, _ => failWith exhausted
  | _ + 1, [], _, es => pure es
  | fuel + 1, item :: rest, sk, es => do
    let isMap := match item with
      | .alias _ _ target _ => (doc.target target).isMapping
      | .mapping _ _ _ => true
      | _ => false
    if !isMap then failWith wantMap
    let es ← anyInto doc fuel item sk es
    anyMergeItems doc fuel rest sk es

/-- Reads a mapping, or an alias of one, into a map that already has entries. -/
def anyInto (doc : Document) : Nat → Tree → Bool → List (AnyValue × AnyValue) →
    ReadM (List (AnyValue × AnyValue))
  | 0, _, _, _ => failWith exhausted
  | fuel + 1, t, sk, es => do
    countRead
    match t with
    | .alias name occurrence target _ =>
      enterAlias name occurrence
      let r ← anyInto doc fuel (doc.target target) sk es
      leaveAlias occurrence
      return r
    | .mapping _ c _ =>
      let repeated := repeatedKeys c
      if !repeated.isEmpty then
        addErrors repeated
        return es
      anyMapping doc fuel c sk es
    | _ => return es

/-- Reads a sequence into a place. -/
def sequence (doc : Document) : Nat → Tree → List Tree → Place → ReadM (Bool × Place)
  | 0, _, _, _ => failWith exhausted
  | fuel + 1, t, items, p =>
    match p with
    | .texts _ => do
      let l ← textItems doc fuel [] items
      return (true, .texts l)
    | .nodes _ => do
      let l ← nodeItems doc fuel [] items
      return (true, .nodes l)
    | _ => do
      typeError t "!!seq" p
      return (false, p)

/-- Reads the items of a sequence as texts, dropping those not read. -/
def textItems (doc : Document) : Nat → List Bytes → List Tree → ReadM (List Bytes)
  | 0, _, _ => failWith exhausted
  | _ + 1, acc, [] => pure acc.reverse
  | fuel + 1, acc, item :: rest => do
    let (ok, v) ← unmarshal doc fuel item (.text [])
    textItems doc fuel (if ok then v.toText :: acc else acc) rest

/-- Reads the items of a sequence as nodes, dropping those not read. -/
def nodeItems (doc : Document) : Nat → List Node → List Tree → ReadM (List Node)
  | 0, _, _ => failWith exhausted
  | _ + 1, acc, [] => pure acc.reverse
  | fuel + 1, acc, item :: rest => do
    let (ok, v) ← unmarshal doc fuel item (.node default)
    nodeItems doc fuel (if ok then v.toNode :: acc else acc) rest

end

/-- Reads a composed document into a node: the node, or what stops reading, the collected
errors reported as a failure. -/
def nodeOfDocument (doc : Document) : Except Stop Node :=
  let fuel := 8 * (doc.size + 2) * (doc.size + 2)
  let run : ReadM (Bool × Place) := do
    countRead
    unmarshal doc fuel doc.root (.node default)
  match run.run {} with
  | .error msg => .error msg
  | .ok ((_, p), s) =>
    if s.errors.isEmpty then .ok p.toNode
    else .error (.failure ("yaml: unmarshal errors:\n  " ++ "\n  ".intercalate s.errors.toList))

end YamlForm

mutual

/-- The YAML value of a node. -/
def Node.toYaml : Node → Yaml.Value
  | .mk m b =>
    let message := match m with
      | some mn => [Yaml.Entry.mk "message" (MessageNode.toYaml mn)]
      | none => []
    let bundle := match b with
      | some bn => [Yaml.Entry.mk "bundle" (BundleNode.toYaml bn)]
      | none => []
    .mapping (message ++ bundle)

/-- The YAML value of a message node. -/
def MessageNode.toYaml (m : MessageNode) : Yaml.Value :=
  .mapping (.mk "address" (.text m.address) ::
    if m.args.isEmpty then [] else [.mk "args" (.sequence (m.args.map Yaml.Value.text))])

/-- The YAML value of a bundle node. -/
def BundleNode.toYaml : BundleNode → Yaml.Value
  | .mk t els =>
    .mapping (.mk "timetag" (.number t.toNat) ::
      if els.isEmpty then [] else [.mk "elements" (.sequence (Node.listToYaml els))])

/-- The YAML values of a list of nodes. -/
def Node.listToYaml : List Node → List Yaml.Value
  | [] => []
  | n :: rest => Node.toYaml n :: Node.listToYaml rest

end

/-- The YAML document of a node. -/
def Node.yamlText (n : Node) : String := n.toYaml.document

/-- Reads a node from the first document of a YAML stream; an empty stream gives an empty
node. -/
def Node.ofYamlText (bs : Bytes) : Except Failure Node :=
  match Yaml.compose bs with
  | .error e => .error (Failure.plain ("parse yaml document: " ++ e.message))
  | .ok none => .ok default
  | .ok (some doc) =>
    match YamlForm.nodeOfDocument doc with
    | .error (.failure msg) => .error (Failure.plain ("parse yaml document: " ++ msg))
    | .error (.fault msg) => .error (Failure.ofFault msg)
    | .ok n => .ok n

end SoundControl
