import SoundControl.Yaml.Event
import SoundControl.Yaml.Resolve
import SoundControl.Yaml.Input

/-! # YAML document trees

The first document of a stream composed into a tree whose nodes carry their tags and lines, with
anchored nodes kept in a table that aliases refer to. -/

namespace SoundControl.Yaml

/-- A node of a composed document. -/
inductive Tree where
  | scalar (tag value : String) (style : ScalarStyle) (line : Nat)
  | sequence (tag : String) (items : List Tree) (line : Nat)
  /-- A mapping; its content holds keys and values alternately. -/
  | mapping (tag : String) (content : List Tree) (line : Nat)
  /-- An alias: the anchor name, the number of this alias and the number of its node. -/
  | alias (name : String) (occurrence target : Nat) (line : Nat)
  deriving Repr, Inhabited

namespace Tree

/-- The tag of a node; an alias has none. -/
def tag : Tree → String
  | .scalar t _ _ _ | .sequence t _ _ | .mapping t _ _ => t
  | .alias _ _ _ _ => ""

/-- The text of a node: a scalar's value, an alias's name, and nothing for a collection. -/
def value : Tree → String
  | .scalar _ v _ _ => v
  | .alias name _ _ _ => name
  | _ => ""

/-- The line a node starts on. -/
def line : Tree → Nat
  | .scalar _ _ _ l | .sequence _ _ l | .mapping _ _ l | .alias _ _ _ l => l

/-- The kind of a node as a number: scalar, sequence, mapping, alias. -/
def kind : Tree → Nat
  | .scalar .. => 0
  | .sequence .. => 1
  | .mapping .. => 2
  | .alias .. => 3

/-- Whether a node is a mapping. -/
def isMapping : Tree → Bool
  | .mapping .. => true
  | _ => false

end Tree

/-- A composed document: its root and the anchored nodes by number. -/
structure Document where
  root : Tree
  anchored : List (Nat × Tree)
  /-- How many nodes were read, aliases included. -/
  size : Nat
  deriving Inhabited

/-- The anchored node of a number. -/
def Document.target (d : Document) (id : Nat) : Tree :=
  (d.anchored.lookup id).getD default

/-- The composer: the parser, an event read but not yet used, the anchor names in force, the
finished anchored nodes and the counters for numbering. -/
structure Composer where
  parser : Parser
  pending : Option Event := none
  names : List (String × Nat) := []
  anchored : List (Nat × Tree) := []
  nextNode : Nat := 0
  nextAlias : Nat := 0
  size : Nat := 0

/-- The composer monad. -/
abbrev ComposeM := StateT Composer (Except YamlError)

namespace Composer

/-- A fault of composing, whose message names no line. -/
def fault (problem : String) : YamlError := { stage := .composer, problem := problem }

/-- The next event, read once. A reader fault that a look ahead met while the event was made
is reported in its place. -/
def peek : ComposeM Event := do
  let c ← get
  match c.pending with
  | some e => return e
  | none =>
    match Parser.next.run c.parser with
    | .ok (e, p) =>
      match p.scanner.faultPending, p.scanner.fault with
      | true, some err => throw err
      | _, _ =>
        set { c with parser := p, pending := some e }
        return e
    | .error err => throw err

/-- Uses up the next event, which must not be the stream end. -/
def expect : ComposeM Unit := do
  let e ← peek
  if e.kind = .streamEnd then
    throw (fault "attempted to go past the end of stream; corrupted value?")
  modify fun c => { c with pending := none }

/-- Numbers a node and, if it has an anchor, makes the anchor name refer to it. -/
def open_ (anchor : String) : ComposeM Nat := do
  let c ← get
  let id := c.nextNode
  set { c with
    nextNode := id + 1
    size := c.size + 1
    names := if anchor.isEmpty then c.names else (anchor, id) :: c.names }
  return id

/-- Keeps a finished node under its number if it is anchored. -/
def close (anchor : String) (id : Nat) (t : Tree) : ComposeM Unit :=
  if anchor.isEmpty then pure ()
  else modify fun c => { c with anchored := (id, t) :: c.anchored }

/-- The tag of a scalar by its explicit tag, style and text. -/
def scalarTag (tag value : String) (style : ScalarStyle) : String :=
  if tag ≠ "" ∧ tag ≠ "!" then shortTag tag
  else if style ≠ .plain then "!!str"
  else if value = "<<" then "!!merge"
  else plainTag value

/-- The tag of a collection by its explicit tag. -/
def collectionTag (tag default : String) : String :=
  if tag ≠ "" ∧ tag ≠ "!" then shortTag tag else default

/-- The fault when the events run out before the document does. -/
def exhausted : YamlError := fault "document too deeply nested"

mutual

/-- Composes the node that the next events stand for. -/
def node : Nat → ComposeM Tree
  | 0 => throw exhausted
  | fuel + 1 => do
    let e ← peek
    let line := e.start.line + 1
    match e.kind with
    | .scalar anchor tag value _ _ style =>
      let id ← open_ anchor
      let t := Tree.scalar (scalarTag tag value style) value style line
      close anchor id t
      expect
      return t
    | .alias name =>
      let c ← get
      match c.names.lookup name with
      | none => throw (fault ("unknown anchor '" ++ name ++ "' referenced"))
      | some target =>
        set { c with nextAlias := c.nextAlias + 1, size := c.size + 1 }
        expect
        return .alias name c.nextAlias target line
    | .sequenceStart anchor tag _ _ =>
      let id ← open_ anchor
      expect
      let items ← children fuel []
      expect
      let t := Tree.sequence (collectionTag tag "!!seq") items line
      close anchor id t
      return t
    | .mappingStart anchor tag _ _ =>
      let id ← open_ anchor
      expect
      let content ← children fuel []
      expect
      let t := Tree.mapping (collectionTag tag "!!map") content line
      close anchor id t
      return t
    | _ => throw (fault "unexpected event")

/-- Composes the nodes of a collection up to its end event, which is left unread. -/
def children : Nat → List Tree → ComposeM (List Tree)
  | 0, _ => throw exhausted
  | fuel + 1, acc => do
    let e ← peek
    match e.kind with
    | .sequenceEnd | .mappingEnd => return acc.reverse
    | _ =>
      let t ← node fuel
      children fuel (t :: acc)

end

/-- Composes the first document of the stream, if there is one. -/
def document (fuel : Nat) : ComposeM (Option Document) := do
  expect
  let e ← peek
  match e.kind with
  | .documentStart _ =>
    expect
    let root ← node fuel
    expect
    let c ← get
    return some ⟨root, c.anchored, c.size⟩
  | _ => return none

end Composer

/-- The first document of what the reader hands out, if there is one. -/
def composeInput (input : Input) : Except YamlError (Option Document) :=
  (Composer.document (8 * input.chars.length + 64)).run' { parser := Parser.ofInput input }

/-- The first document of a YAML byte stream, if there is one. An empty stream is read as a
single line break. -/
def compose (bs : Bytes) : Except YamlError (Option Document) := do
  composeInput (decodeInput (if bs.isEmpty then [0x0A] else bs))

end SoundControl.Yaml
