import SoundControl.Yaml.Scanner

/-! # YAML events

The parser turns tokens into events, one at a time, by a state machine over the grammar of
YAML streams. -/

namespace SoundControl.Yaml

/-- What an event is. An empty anchor or tag means none. -/
inductive EventKind where
  | streamStart
  | streamEnd
  | documentStart (implicit : Bool)
  | documentEnd (implicit : Bool)
  | alias (anchor : String)
  | scalar (anchor tag value : String) (plainImplicit quotedImplicit : Bool)
      (style : ScalarStyle)
  | sequenceStart (anchor tag : String) (implicit flow : Bool)
  | sequenceEnd
  | mappingStart (anchor tag : String) (implicit flow : Bool)
  | mappingEnd
  deriving DecidableEq, Repr, Inhabited

/-- An event and the positions where it starts and ends. -/
structure Event where
  kind : EventKind
  start : Mark
  stop : Mark
  deriving DecidableEq, Repr, Inhabited

/-- Where the parser is in the grammar. -/
inductive ParseState where
  | streamStart
  | implicitDocumentStart
  | documentStart
  | documentContent
  | documentEnd
  | blockNode
  | blockNodeOrIndentlessSequence
  | flowNode
  | blockSequenceFirstEntry
  | blockSequenceEntry
  | indentlessSequenceEntry
  | blockMappingFirstKey
  | blockMappingKey
  | blockMappingValue
  | flowSequenceFirstEntry
  | flowSequenceEntry
  | flowSequenceEntryMappingKey
  | flowSequenceEntryMappingValue
  | flowSequenceEntryMappingEnd
  | flowMappingFirstKey
  | flowMappingKey
  | flowMappingValue
  | flowMappingEmptyValue
  | finished
  deriving DecidableEq, Repr, Inhabited

/-- The parser: the scanner it reads from and its own stacks. -/
structure Parser where
  scanner : Scanner
  state : ParseState := .streamStart
  /-- The states to return to, innermost first. -/
  states : List ParseState := []
  /-- The start positions of the open collections, innermost first. -/
  marks : List Mark := []
  /-- The tag handles in force and their prefixes. -/
  tagDirectives : List (String × String) := []
  deriving Inhabited

/-- The parser monad. -/
abbrev ParseM := StateT Parser (Except YamlError)

namespace Parser

/-- Runs a scanner step. -/
def scan {α : Type} (m : ScanM α) : ParseM α := do
  let p ← get
  match m.run p.scanner with
  | .ok (a, s) => set { p with scanner := s }; return a
  | .error e => throw e

/-- The next token. -/
def token : ParseM Token := scan Scanner.peekToken

/-- Takes the next token. -/
def skipToken : ParseM Unit := scan Scanner.skipToken

/-- A parser fault at `m`. -/
def fail {α : Type} (problem : String) (m : Mark) : ParseM α :=
  throw { stage := .parser, problem := problem, mark := m }

/-- A parser fault at `m` in the structure that starts at `context`. -/
def failIn {α : Type} (context : Mark) (problem : String) (m : Mark) : ParseM α :=
  throw { stage := .parser, problem := problem, context := context, mark := m }

/-- Returns to the state on top of the stack. -/
def popState : ParseM Unit := modify fun p =>
  { p with state := p.states.headD .finished, states := p.states.drop 1 }

/-- Pushes a state to return to. -/
def pushState (st : ParseState) : ParseM Unit := modify fun p => { p with states := st :: p.states }

/-- Pops the start position of the innermost collection. -/
def popMark : ParseM Mark := do
  let p ← get
  set { p with marks := p.marks.drop 1 }
  return p.marks.headD {}

/-- The empty plain scalar at `m`. -/
def emptyScalar (m : Mark) : Event := ⟨.scalar "" "" "" true false .plain, m, m⟩

/-- The standard tag handles. -/
def standardHandles : List (String × String) := [("!", "!"), ("!!", "tag:yaml.org,2002:")]

/-- Adds a tag handle; a second one of the same handle is a fault unless `quiet`. -/
def addHandle (quiet : Bool) (d : String × String) (m : Mark) : ParseM Unit := do
  let p ← get
  if p.tagDirectives.any (·.1 = d.1) then
    if !quiet then fail "found duplicate %TAG directive" m
  else set { p with tagDirectives := p.tagDirectives ++ [d] }

/-- Reads directives until another token, at most `n` of them; `sawVersion` says that a
`%YAML` directive was read. Then adds the standard handles. -/
def directiveLoop : Nat → Bool → ParseM Unit
  | 0, _ => pure ()
  | n + 1, sawVersion => do
    let t ← token
    match t.kind with
    | .versionDirective major minor =>
      if sawVersion then fail "found duplicate %YAML directive" t.start
      if major ≠ 1 ∨ minor ≠ 1 then fail "found incompatible YAML document" t.start
      skipToken
      directiveLoop n true
    | .tagDirective handle uri =>
      addHandle false (handle, uri) t.start
      skipToken
      directiveLoop n sawVersion
    | _ =>
      for d in standardHandles do addHandle true d t.start

/-- Reads the directives before a document and adds the standard handles. -/
def directives : ParseM Unit := do
  directiveLoop ((← get).scanner.rest.length + 2) false

/-- Takes document end markers, at most `n` of them. -/
def skipDocumentEnds : Nat → ParseM Unit
  | 0 => pure ()
  | n + 1 => do
    if (← token).kind = .documentEnd then
      skipToken
      skipDocumentEnds n

/-- Parses the stream start. -/
def streamStart : ParseM Event := do
  let t ← token
  match t.kind with
  | .streamStart =>
    modify fun p => { p with state := .implicitDocumentStart }
    skipToken
    return ⟨.streamStart, t.start, t.stop⟩
  | _ => fail "did not find expected <stream-start>" t.start

/-- Parses the start of a document, or the stream end. -/
def documentStart (implicit : Bool) : ParseM Event := do
  if !implicit then skipDocumentEnds ((← get).scanner.rest.length + 2)
  let t ← token
  let isDirective := match t.kind with
    | .versionDirective _ _ | .tagDirective _ _ => true
    | _ => false
  if implicit ∧ !isDirective ∧ t.kind ≠ .documentStart ∧ t.kind ≠ .streamEnd then
    directives
    pushState .documentEnd
    modify fun p => { p with state := .blockNode }
    return ⟨.documentStart true, t.start, t.stop⟩
  else if t.kind ≠ .streamEnd then
    directives
    let t' ← token
    if t'.kind ≠ .documentStart then fail "did not find expected <document start>" t'.start
    pushState .documentEnd
    modify fun p => { p with state := .documentContent }
    skipToken
    return ⟨.documentStart false, t.start, t'.stop⟩
  else
    modify fun p => { p with state := .finished }
    skipToken
    return ⟨.streamEnd, t.start, t.stop⟩

/-- Parses the end of a document. -/
def documentEnd : ParseM Event := do
  let t ← token
  let (implicit, stop) ←
    if t.kind = .documentEnd then do skipToken; pure (false, t.stop)
    else pure (true, t.start)
  modify fun p => { p with tagDirectives := [], state := .documentStart }
  return ⟨.documentEnd implicit, t.start, stop⟩

/-- Expands a tag's handle by the directives in force. -/
def expandTag (handle suffix : String) (start tagMark : Mark) : ParseM String := do
  if handle.isEmpty then return suffix
  match (← get).tagDirectives.find? (·.1 = handle) with
  | some (_, uri) => return uri ++ suffix
  | none => failIn start "found undefined tag handle" tagMark

/-- Parses a node: an alias, or properties followed by a scalar or a collection start. -/
def node (block indentlessSequence : Bool) : ParseM Event := do
  let t ← token
  match t.kind with
  | .alias name =>
    popState
    skipToken
    return ⟨.alias name, t.start, t.stop⟩
  | _ =>
    -- anchor and tag, in either order
    let (anchor, tagParts, start, stop) ← match t.kind with
      | .anchor name => do
        skipToken
        let t2 ← token
        match t2.kind with
        | .tag h s => do skipToken; pure (name, some (h, s, t2.start), t.start, t2.stop)
        | _ => pure (name, none, t.start, t.stop)
      | .tag h s => do
        skipToken
        let t2 ← token
        match t2.kind with
        | .anchor name => do skipToken; pure (name, some (h, s, t.start), t.start, t2.stop)
        | _ => pure ("", some (h, s, t.start), t.start, t.stop)
      | _ => pure ("", none, t.start, t.start)
    let tag ← match tagParts with
      | some (h, s, m) => expandTag h s start m
      | none => pure ""
    let implicit := tag.isEmpty
    let t ← token
    match t.kind with
    | .blockEntry =>
      if indentlessSequence then
        modify fun p => { p with state := .indentlessSequenceEntry }
        return ⟨.sequenceStart anchor tag implicit false, start, t.stop⟩
      else if !anchor.isEmpty ∨ !tag.isEmpty then
        popState
        return ⟨.scalar anchor tag "" implicit false .plain, start, stop⟩
      else
        failIn start "did not find expected node content" t.start
    | .scalar value style =>
      let plainImplicit := (tag.isEmpty ∧ style = .plain) ∨ tag = "!"
      let quotedImplicit := ¬ plainImplicit ∧ tag.isEmpty
      popState
      skipToken
      return ⟨.scalar anchor tag value plainImplicit quotedImplicit style, start, t.stop⟩
    | .flowSequenceStart =>
      modify fun p => { p with state := .flowSequenceFirstEntry }
      return ⟨.sequenceStart anchor tag implicit true, start, t.stop⟩
    | .flowMappingStart =>
      modify fun p => { p with state := .flowMappingFirstKey }
      return ⟨.mappingStart anchor tag implicit true, start, t.stop⟩
    | .blockSequenceStart =>
      if block then
        modify fun p => { p with state := .blockSequenceFirstEntry }
        return ⟨.sequenceStart anchor tag implicit false, start, t.stop⟩
      else if !anchor.isEmpty ∨ !tag.isEmpty then
        popState
        return ⟨.scalar anchor tag "" implicit false .plain, start, stop⟩
      else failIn start "did not find expected node content" t.start
    | .blockMappingStart =>
      if block then
        modify fun p => { p with state := .blockMappingFirstKey }
        return ⟨.mappingStart anchor tag implicit false, start, t.stop⟩
      else if !anchor.isEmpty ∨ !tag.isEmpty then
        popState
        return ⟨.scalar anchor tag "" implicit false .plain, start, stop⟩
      else failIn start "did not find expected node content" t.start
    | _ =>
      if !anchor.isEmpty ∨ !tag.isEmpty then
        popState
        return ⟨.scalar anchor tag "" implicit false .plain, start, stop⟩
      else failIn start "did not find expected node content" t.start

/-- Remembers where a collection starts and takes its start token. -/
def openCollection : ParseM Unit := do
  let t ← token
  modify fun p => { p with marks := t.start :: p.marks }
  skipToken

/-- Parses an entry of a block sequence. -/
def blockSequenceEntry (first : Bool) : ParseM Event := do
  if first then openCollection
  let t ← token
  match t.kind with
  | .blockEntry =>
    skipToken
    let t2 ← token
    if t2.kind ≠ .blockEntry ∧ t2.kind ≠ .blockEnd then
      pushState .blockSequenceEntry
      node true false
    else
      modify fun p => { p with state := .blockSequenceEntry }
      return emptyScalar t.stop
  | .blockEnd =>
    popState
    let _ ← popMark
    skipToken
    return ⟨.sequenceEnd, t.start, t.stop⟩
  | _ =>
    let m ← popMark
    failIn m "did not find expected '-' indicator" t.start

/-- Parses an entry of a sequence written at the indentation of its mapping key. -/
def indentlessSequenceEntry : ParseM Event := do
  let t ← token
  match t.kind with
  | .blockEntry =>
    skipToken
    let t2 ← token
    if t2.kind ≠ .blockEntry ∧ t2.kind ≠ .key ∧ t2.kind ≠ .value ∧ t2.kind ≠ .blockEnd then
      pushState .indentlessSequenceEntry
      node true false
    else
      modify fun p => { p with state := .indentlessSequenceEntry }
      return emptyScalar t.stop
  | _ =>
    popState
    return ⟨.sequenceEnd, t.start, t.start⟩

/-- Parses a key of a block mapping. -/
def blockMappingKey (first : Bool) : ParseM Event := do
  if first then openCollection
  let t ← token
  match t.kind with
  | .key =>
    skipToken
    let t2 ← token
    if t2.kind ≠ .key ∧ t2.kind ≠ .value ∧ t2.kind ≠ .blockEnd then
      pushState .blockMappingValue
      node true true
    else
      modify fun p => { p with state := .blockMappingValue }
      return emptyScalar t.stop
  | .blockEnd =>
    popState
    let _ ← popMark
    skipToken
    return ⟨.mappingEnd, t.start, t.stop⟩
  | _ =>
    let m ← popMark
    failIn m "did not find expected key" t.start

/-- Parses a value of a block mapping. -/
def blockMappingValue : ParseM Event := do
  let t ← token
  match t.kind with
  | .value =>
    skipToken
    let t2 ← token
    if t2.kind ≠ .key ∧ t2.kind ≠ .value ∧ t2.kind ≠ .blockEnd then
      pushState .blockMappingKey
      node true true
    else
      modify fun p => { p with state := .blockMappingKey }
      return emptyScalar t.stop
  | _ =>
    modify fun p => { p with state := .blockMappingKey }
    return emptyScalar t.start

/-- Parses an entry of a flow sequence. -/
def flowSequenceEntry (first : Bool) : ParseM Event := do
  if first then openCollection
  let t ← token
  let t ←
    if t.kind ≠ .flowSequenceEnd ∧ !first then
      if t.kind = .flowEntry then do skipToken; token
      else do
        let m ← popMark
        failIn m "did not find expected ',' or ']'" t.start
    else pure t
  match t.kind with
  | .flowSequenceEnd =>
    popState
    let _ ← popMark
    skipToken
    return ⟨.sequenceEnd, t.start, t.stop⟩
  | .key =>
    modify fun p => { p with state := .flowSequenceEntryMappingKey }
    skipToken
    return ⟨.mappingStart "" "" true true, t.start, t.stop⟩
  | _ =>
    pushState .flowSequenceEntry
    node false false

/-- Parses the key of a single-pair mapping inside a flow sequence. -/
def flowSequenceEntryMappingKey : ParseM Event := do
  let t ← token
  if t.kind ≠ .value ∧ t.kind ≠ .flowEntry ∧ t.kind ≠ .flowSequenceEnd then
    pushState .flowSequenceEntryMappingValue
    node false false
  else
    skipToken
    modify fun p => { p with state := .flowSequenceEntryMappingValue }
    return emptyScalar t.stop

/-- Parses the value of a single-pair mapping inside a flow sequence. -/
def flowSequenceEntryMappingValue : ParseM Event := do
  let t ← token
  if t.kind = .value then
    skipToken
    let t2 ← token
    if t2.kind ≠ .flowEntry ∧ t2.kind ≠ .flowSequenceEnd then
      pushState .flowSequenceEntryMappingEnd
      return ← node false false
  modify fun p => { p with state := .flowSequenceEntryMappingEnd }
  return emptyScalar t.start

/-- Ends a single-pair mapping inside a flow sequence. -/
def flowSequenceEntryMappingEnd : ParseM Event := do
  let t ← token
  modify fun p => { p with state := .flowSequenceEntry }
  return ⟨.mappingEnd, t.start, t.start⟩

/-- Parses a key of a flow mapping. -/
def flowMappingKey (first : Bool) : ParseM Event := do
  if first then openCollection
  let t ← token
  let t ←
    if t.kind ≠ .flowMappingEnd ∧ !first then
      if t.kind = .flowEntry then do skipToken; token
      else do
        let m ← popMark
        failIn m "did not find expected ',' or '\x7d'" t.start
    else pure t
  match t.kind with
  | .flowMappingEnd =>
    popState
    let _ ← popMark
    skipToken
    return ⟨.mappingEnd, t.start, t.stop⟩
  | .key =>
    skipToken
    let t2 ← token
    if t2.kind ≠ .value ∧ t2.kind ≠ .flowEntry ∧ t2.kind ≠ .flowMappingEnd then
      pushState .flowMappingValue
      node false false
    else
      modify fun p => { p with state := .flowMappingValue }
      return emptyScalar t2.start
  | _ =>
    pushState .flowMappingEmptyValue
    node false false

/-- Parses a value of a flow mapping; `empty` when the key stood alone. -/
def flowMappingValue (empty : Bool) : ParseM Event := do
  let t ← token
  if empty then
    modify fun p => { p with state := .flowMappingKey }
    return emptyScalar t.start
  if t.kind = .value then
    skipToken
    let t2 ← token
    if t2.kind ≠ .flowEntry ∧ t2.kind ≠ .flowMappingEnd then
      pushState .flowMappingKey
      return ← node false false
    modify fun p => { p with state := .flowMappingKey }
    return emptyScalar t2.start
  modify fun p => { p with state := .flowMappingKey }
  return emptyScalar t.start

/-- The next event. -/
def next : ParseM Event := do
  match (← get).state with
  | .streamStart => streamStart
  | .implicitDocumentStart => documentStart true
  | .documentStart => documentStart false
  | .documentContent =>
    let t ← token
    match t.kind with
    | .versionDirective _ _ | .tagDirective _ _ | .documentStart | .documentEnd | .streamEnd =>
      popState
      return emptyScalar t.start
    | _ => node true false
  | .documentEnd => documentEnd
  | .blockNode => node true false
  | .blockNodeOrIndentlessSequence => node true true
  | .flowNode => node false false
  | .blockSequenceFirstEntry => blockSequenceEntry true
  | .blockSequenceEntry => blockSequenceEntry false
  | .indentlessSequenceEntry => indentlessSequenceEntry
  | .blockMappingFirstKey => blockMappingKey true
  | .blockMappingKey => blockMappingKey false
  | .blockMappingValue => blockMappingValue
  | .flowSequenceFirstEntry => flowSequenceEntry true
  | .flowSequenceEntry => flowSequenceEntry false
  | .flowSequenceEntryMappingKey => flowSequenceEntryMappingKey
  | .flowSequenceEntryMappingValue => flowSequenceEntryMappingValue
  | .flowSequenceEntryMappingEnd => flowSequenceEntryMappingEnd
  | .flowMappingFirstKey => flowMappingKey true
  | .flowMappingKey => flowMappingKey false
  | .flowMappingValue => flowMappingValue false
  | .flowMappingEmptyValue => flowMappingValue true
  | .finished =>
    let m := (← get).scanner.mark
    return ⟨.streamEnd, m, m⟩

end Parser

/-- A parser over what the reader hands out. -/
def Parser.ofInput (input : Input) : Parser := { scanner := Scanner.ofInput input }

end SoundControl.Yaml
