import SoundControl.Yaml.Input
import SoundControl.Text.Utf8

/-! # YAML scanner

Turns characters into tokens on demand, keeping a queue of tokens ahead while a simple key may
still be open and turning indentation into block start and end tokens. Faults found while
fetching ahead come before the parser uses the tokens before them. -/

namespace SoundControl.Yaml

/-- A place where a `key` token may still be inserted. -/
structure SimpleKey where
  possible : Bool := false
  required : Bool := false
  /-- The number of the token that would follow the key token. -/
  tokenNumber : Nat := 0
  mark : Mark := {}
  deriving DecidableEq, Repr, Inhabited

/-- The scanner: the characters not yet read, and all that tokenizing depends on. -/
structure Scanner where
  /-- The characters not yet read. -/
  rest : List Char
  /-- The reader fault that stands past the characters, if any. -/
  fault : Option YamlError := none
  /-- The characters the reader decoded before its fault, not yet readable. -/
  heldBack : List Char := []
  /-- Whether a look ahead has stopped at the reader's fault; the fault is then reported as
  soon as the event being made is done, unless another fault comes first. -/
  faultPending : Bool := false
  /-- The number of characters of each read the reader has yet to decode. -/
  reads : List Nat := []
  /-- How many characters the reader has decoded so far, counting one end character for each
  request it met at the end of the stream. -/
  filled : Nat := 0
  /-- The character at the start of the reader's buffer: the current character at the last
  request that found too few characters decoded. -/
  bufferHead : Char := endChar
  /-- Whether a line break was passed since the last character that is not a blank. -/
  lineBreaks : Bool := false
  mark : Mark := {}
  started : Bool := false
  flowLevel : Nat := 0
  /-- The tokens fetched and not yet taken, first first. -/
  queue : List Token := []
  /-- How many tokens have been taken. -/
  taken : Nat := 0
  /-- Whether the first token of the queue may be taken without fetching. -/
  ready : Bool := false
  indent : Int := -1
  /-- The enclosing indentation levels, innermost last. -/
  indents : List Int := []
  keyAllowed : Bool := false
  /-- The possible simple keys, one per flow level, innermost last. -/
  keys : List SimpleKey := []
  /-- Which possible simple key belongs to which token number. -/
  keyOfToken : List (Nat × Nat) := []
  deriving Inhabited

/-- The position one character further on the same line. -/
def Mark.advance (m : Mark) : Mark := { m with index := m.index + 1, column := m.column + 1 }

/-- The scanner monad. -/
abbrev ScanM := StateT Scanner (Except YamlError)

namespace Scanner

/-- The most nested flow collections and indentation levels. -/
def maxDepth : Nat := 10000

/-- The decoded total once the reader has decoded enough reads to reach `target`: each read adds
its characters; with no reads left, one end character is added, unless a fault stops the
reader. -/
def fillReads (target : Nat) (stopped : Bool) : Nat → List Nat → Nat × List Nat
  | filled, [] => (if stopped then filled else filled + 1, [])
  | filled, r :: rs =>
    if target ≤ filled + r then (filled + r, rs) else fillReads target stopped (filled + r) rs

/-- The character at the current position, where the reader's buffer starts once it has moved
what is left to its start. -/
def current (s : Scanner) : Char := (s.rest.head? <|> s.heldBack.head?).getD endChar

/-- Asks the reader for `n` characters from the current one on, as the scanner does before it
looks at them. When fewer are decoded, the reader first moves what is left to the start of its
buffer, so that the buffer starts at the current character, and then decodes reads until it
has enough or the stream ends. Decoding the read that holds the reader's fault fails with it. -/
def need (n : Nat) : ScanM Unit := do
  let s ← get
  if s.mark.index + n ≤ s.filled then return
  let (filled, reads) := fillReads (s.mark.index + n) s.fault.isSome s.filled s.reads
  set { s with bufferHead := s.current, filled := filled, reads := reads }
  match s.fault with
  | some e => if filled < s.mark.index + n then throw e
  | none => pure ()

/-- The character `k` places ahead; past the characters, the reader's fault or, at the end of
the stream, the end character. Looking at the current character asks the reader for it; a look
further ahead relies on a request made for it before. -/
def peek (k : Nat) : ScanM Char := do
  if k = 0 then need 1
  let s ← get
  match s.rest[k]?, s.fault with
  | some c, _ => return c
  | none, some e => throw e
  | none, none => return endChar

/-- The character `k` places ahead for a look ahead that stops where the reader meets its fault
instead of failing: none there, and from then on the characters the reader decoded before the
fault are readable, and the fault is pending. -/
def peekAhead (k : Nat) : ScanM (Option Char) := do
  let s ← get
  if s.fault.isSome && s.filled + s.reads.foldl (· + ·) 0 < s.mark.index + k + 1 then
    set { s with
      rest := s.rest ++ s.heldBack
      heldBack := []
      bufferHead := s.current
      filled := s.filled + s.reads.foldl (· + ·) 0 + s.heldBack.length
      reads := []
      faultPending := true }
    return none
  need (k + 1)
  return some (((← get).rest[k]?).getD endChar)

/-- Whether the stream has ended; the reader's fault if the scanner has reached it. -/
def atEnd : ScanM Bool := do
  let _ ← peek 0
  return (← get).rest.isEmpty

/-- The current position. -/
def here : ScanM Mark := return (← get).mark

/-- Enough steps for a loop that reads a character each round. -/
def fuel : ScanM Nat := do
  let s ← get
  return s.rest.length + s.heldBack.length + 1

/-- Runs `step` on an accumulator until it says to stop, at most `n` rounds. -/
def loop {α : Type} : Nat → (α → ScanM (α × Bool)) → α → ScanM α
  | 0, _, a => pure a
  | n + 1, step, a => do
    let (a', more) ← step a
    if more then loop n step a' else pure a'

/-- Moves past one character on the same line. -/
def skip : ScanM Unit := modify fun s =>
  match s.rest with
  | [] => s
  | c :: r => { s with rest := r, mark := s.mark.advance, lineBreaks := s.lineBreaks && isBlank c }

/-- Moves past one character as `skip` does, and at the end of the stream past the end
character: the position moves on all the same. -/
def skipMark : ScanM Unit := modify fun s =>
  match s.rest with
  | [] => { s with mark := s.mark.advance, lineBreaks := false }
  | c :: r => { s with rest := r, mark := s.mark.advance, lineBreaks := s.lineBreaks && isBlank c }

/-- Moves past `n` characters on the same line. -/
def skipN : Nat → ScanM Unit
  | 0 => pure ()
  | n + 1 => do skip; skipN n

/-- Appends the current character to `acc` and moves past it. -/
def read (acc : String) : ScanM String := do
  let c ← peek 0
  skip
  return acc.push c

/-- Moves past a line break, a carriage return and line feed counting as one. -/
def skipLine : ScanM Unit := do
  need 2
  modify fun s =>
  match s.rest with
  | '\r' :: '\n' :: r =>
    { s with rest := r, mark := ⟨s.mark.index + 2, s.mark.line + 1, 0⟩, lineBreaks := true }
  | c :: r =>
    if isBreak c then
      { s with rest := r, mark := ⟨s.mark.index + 1, s.mark.line + 1, 0⟩, lineBreaks := true }
    else s
  | [] => s

/-- Appends a line break to `acc` and moves past it: a carriage return, line feed or next-line
character becomes a line feed, a line or paragraph separator stays itself. -/
def readLine (acc : String) : ScanM String := do
  need 2
  let s ← get
  match s.rest with
  | '\r' :: '\n' :: r =>
    set { s with rest := r, mark := ⟨s.mark.index + 2, s.mark.line + 1, 0⟩, lineBreaks := true }
    return acc.push '\n'
  | c :: r =>
    if c = '\r' ∨ c = '\n' ∨ c.toNat = 0x85 then
      set { s with rest := r, mark := ⟨s.mark.index + 1, s.mark.line + 1, 0⟩, lineBreaks := true }
      return acc.push '\n'
    else if c.toNat = 0x2028 ∨ c.toNat = 0x2029 then
      set { s with rest := r, mark := ⟨s.mark.index + 1, s.mark.line + 1, 0⟩, lineBreaks := true }
      return acc.push c
    else return acc
  | [] => return acc

/-- A scanner fault in the structure that starts at `context`, found at the current position. -/
def fail {α : Type} (context : Mark) (problem : String) : ScanM α := do
  throw { stage := .scanner, problem := problem, context := context, mark := (← here) }

/-- Appends a token to the queue. -/
def push (t : Token) : ScanM Unit := modify fun s => { s with queue := s.queue ++ [t] }

/-- Inserts a token into the queue at position `pos` from its front. -/
def insertAt (pos : Nat) (t : Token) : ScanM Unit :=
  modify fun s => { s with queue := s.queue.take pos ++ t :: s.queue.drop pos }

/-- A token that takes no characters. -/
def point (kind : TokenKind) (m : Mark) : Token := ⟨kind, m, m⟩

/-- Appends a token of one character and moves past it. -/
def single (kind : TokenKind) : ScanM Unit := do
  let start ← here
  skip
  push ⟨kind, start, (← here)⟩

/-! ## Simple keys -/

/-- The innermost possible simple key. -/
def topKey : ScanM SimpleKey := return (← get).keys.getLastD {}

/-- Replaces the key at index `i`. -/
def setKey (i : Nat) (k : SimpleKey) : ScanM Unit :=
  modify fun s => { s with keys := s.keys.set i k }

/-- Whether a possible key is still one: it must be on the current line and at most 1024
characters back. A key that must be one and no longer can is a fault. -/
def keyStillValid (i : Nat) : ScanM Bool := do
  let s ← get
  let k := s.keys.getD i {}
  if !k.possible then return false
  if k.mark.line < s.mark.line ∨ k.mark.index + 1024 < s.mark.index then
    if k.required then fail k.mark "could not find expected ':'"
    setKey i { k with possible := false }
    return false
  return true

/-- Drops the innermost possible key; one that must be a key is a fault. -/
def removeKey : ScanM Unit := do
  let s ← get
  let i := s.keys.length - 1
  let k := s.keys.getD i {}
  if k.possible then
    if k.required then fail k.mark "could not find expected ':'"
    set { s with
      keys := s.keys.set i { k with possible := false }
      keyOfToken := s.keyOfToken.filter (·.1 ≠ k.tokenNumber) }

/-- Records the current position as a possible simple key, if a key may start here. -/
def saveKey : ScanM Unit := do
  let s ← get
  if s.keyAllowed then
    let required := s.flowLevel = 0 ∧ s.indent = (s.mark.column : Int)
    let k : SimpleKey := ⟨true, required, s.taken + s.queue.length, s.mark⟩
    removeKey
    modify fun s => { s with
      keys := s.keys.set (s.keys.length - 1) k
      keyOfToken := (k.tokenNumber, s.keys.length - 1) ::
        s.keyOfToken.filter (·.1 ≠ k.tokenNumber) }

/-- Enters a flow collection. -/
def enterFlow : ScanM Unit := do
  modify fun s => { s with keys := s.keys ++ [{}], flowLevel := s.flowLevel + 1 }
  let s ← get
  if maxDepth < s.flowLevel then
    throw ⟨.scanner, "exceeded max depth of " ++ toString maxDepth, {}, s.mark⟩

/-- Leaves a flow collection. -/
def leaveFlow : ScanM Unit := modify fun s =>
  if s.flowLevel = 0 then s
  else
    let k := s.keys.getLastD {}
    { s with
      flowLevel := s.flowLevel - 1
      keys := s.keys.dropLast
      keyOfToken := s.keyOfToken.filter (·.1 ≠ k.tokenNumber) }

/-! ## Indentation -/

/-- In block context, opens an indentation level at `column` if it is deeper, inserting a start
token before token number `number` or at the end of the queue. -/
def rollIndent (column : Int) (number : Option Nat) (kind : TokenKind) (m : Mark) :
    ScanM Unit := do
  let s ← get
  if s.flowLevel = 0 ∧ s.indent < column then
    set { s with indents := s.indents ++ [s.indent], indent := column }
    if maxDepth < s.indents.length + 1 then
      throw ⟨.scanner, "exceeded max depth of " ++ toString maxDepth, (← topKey).mark, s.mark⟩
    match number with
    | some n => insertAt (n - s.taken) (point kind m)
    | none => push (point kind m)

/-- In block context, closes the indentation levels deeper than `column`, each with a
block-end token placed just before `m`. -/
def unrollIndent (column : Int) (m : Mark) : ScanM Unit := do
  let s ← get
  if s.flowLevel = 0 then
    let blockMark := { m with index := m.index - 1 }
    let step (_ : Unit) : ScanM (Unit × Bool) := do
      let s ← get
      if column < s.indent then
        push (point .blockEnd blockMark)
        modify fun s => { s with indent := s.indents.getLastD (-1), indents := s.indents.dropLast }
        return ((), true)
      else return ((), false)
    loop (s.indents.length + 1) step ()

/-! ## Blanks and comments -/

/-- Moves past the text of a comment, up to its line break. -/
def skipCommentText : ScanM Unit := do
  loop (← fuel) (fun _ => do
    if isBreakZ (← peek 0) then return ((), false)
    skip
    return ((), true)) ()

/-- How far ahead the next comment starts when only blanks (tabs included) and line breaks stand
before it, looking at no more than `n` characters from the `k`-th on; the look ahead stops at
the reader's fault. -/
def commentAhead : Nat → Nat → ScanM (Option Nat)
  | 0, _ => return none
  | n + 1, k => do
    match ← peekAhead k with
    | none => return none
    | some c =>
      if isBlank c ∨ isBreak c then commentAhead n (k + 1)
      else if c = '#' then return some k
      else return none

/-- Moves on until the position has the given index, a line break at a time where one stands. -/
def skipTo (target : Nat) : ScanM Unit := do
  loop (← fuel) (fun _ => do
    if target ≤ (← here).index then return ((), false)
    if isBreak (← peek 0) then skipLine else skip
    return ((), true)) ()

/-- The characters one look ahead for a following comment may cover. -/
def commentLookahead : Nat := 512

/-- Moves past a comment and the comments that follow it: a comment line after it, behind blanks
(tabs included) and empty lines, is taken along with it, as long as its `#` stands within the
look ahead. The position ends at the line break of the last comment taken. -/
def skipComments : ScanM Unit := do
  skipCommentText
  loop (← fuel) (fun _ => do
    match ← commentAhead commentLookahead 0 with
    | none => return ((), false)
    | some k =>
      skipTo ((← here).index + k)
      skipCommentText
      return ((), true)) ()

/-- How far ahead a comment starts when only blanks (tabs included) stand before it on the line,
looking at no more than `n` characters from the `k`-th on; the look ahead stops at the reader's
fault. -/
def lineCommentAhead : Nat → Nat → ScanM (Option Nat)
  | 0, _ => return none
  | n + 1, k => do
    match ← peekAhead k with
    | none => return none
    | some c =>
      if isBlank c then lineCommentAhead n (k + 1)
      else if c = '#' then return some k
      else return none

/-- After a token other than a block entry, moves past a comment that ends its line, blanks
(tabs included) before it, up to the line break; the lines after it are not looked at. Nothing
is done once a line break has been passed. -/
def lineComment : ScanM Unit := do
  let s ← get
  if s.lineBreaks then return
  match s.queue.getLast? with
  | some t => if t.kind = .blockEntry then return
  | none => pure ()
  match ← lineCommentAhead commentLookahead 0 with
  | none => pure ()
  | some k =>
    skipN k
    skipCommentText

/-- Moves past blanks, comments and line breaks up to the next token. A line break in block
context allows a simple key; tabs count as blanks only in flow context or where no simple key
may start, and in the comment lines that follow a comment. At the start of a line one character
is skipped when the reader's buffer starts with a byte order mark. -/
def skipToToken : ScanM Unit := do
  let step (_ : Unit) : ScanM (Unit × Bool) := do
    need 1
    let s ← get
    if s.mark.column = 0 ∧ s.bufferHead.toNat = 0xFEFF then skipMark
    let blanks (_ : Unit) : ScanM (Unit × Bool) := do
      let s ← get
      let c ← peek 0
      if c = ' ' ∨ ((0 < s.flowLevel ∨ !s.keyAllowed) ∧ c = '\t') then
        skip
        return ((), true)
      else return ((), false)
    loop (← fuel) blanks ()
    if (← peek 0) = '#' then skipComments
    if isBreak (← peek 0) then
      skipLine
      if (← get).flowLevel = 0 then modify fun s => { s with keyAllowed := true }
      return ((), true)
    else return ((), false)
  loop (← fuel) step ()

/-! ## Directives -/

/-- Reads the name of a directive. -/
def directiveName (start : Mark) : ScanM String := do
  let name ← loop (← fuel) (fun acc => do
    if isWordChar (← peek 0) then return (← read acc, true) else return (acc, false)) ""
  if name.isEmpty then fail start "could not find expected directive name"
  if !isBlankZ (← peek 0) then fail start "found unexpected non-alphabetical character"
  return name

/-- Moves past blanks. -/
def skipBlanks : ScanM Unit := do
  loop (← fuel) (fun _ => do
    if isBlank (← peek 0) then skip; return ((), true) else return ((), false)) ()

/-- Reads one number of a version directive. -/
def versionNumber (start : Mark) : ScanM Nat := do
  let (value, length) ← loop (← fuel) (fun (acc : Nat × Nat) => do
    let c ← peek 0
    if isDigitChar c then
      if 2 < acc.2 + 1 then fail start "found extremely long version number"
      skip
      return ((acc.1 * 10 + (c.toNat - 48), acc.2 + 1), true)
    else return (acc, false)) (0, 0)
  if length = 0 then fail start "did not find expected version number"
  return value

/-- Reads a tag handle: `!`, `!!` or `!name!`. In a directive anything else is a fault; in a
tag, a handle without its closing `!` is the start of the suffix. -/
def tagHandle (directive : Bool) (start : Mark) : ScanM String := do
  if (← peek 0) ≠ '!' then
    fail start "did not find expected '!'"
  let s ← read ""
  let s ← loop (← fuel) (fun acc => do
    if isWordChar (← peek 0) then return (← read acc, true) else return (acc, false)) s
  if (← peek 0) = '!' then read s
  else
    if directive ∧ s ≠ "!" then fail start "did not find expected '!'"
    return s

/-- Whether a character may stand in a tag URI; `,`, `[` and `]` only in a verbatim tag. -/
def isUriChar (verbatim : Bool) (c : Char) : Bool :=
  isWordChar c || ";/?:@&=+$.%!~*'()".contains c || (verbatim && ",[]".contains c)

/-- The UTF-8 width of a leading byte, 0 for one that cannot lead. -/
def octetWidth (b : Nat) : Nat :=
  if b < 0x80 then 1 else if b / 32 = 6 then 2 else if b / 16 = 14 then 3
  else if b / 8 = 30 then 4 else 0

/-- Reads `%`-escaped octets forming one UTF-8 character. -/
def uriEscapes (start : Mark) : ScanM (List Nat) := do
  let step (acc : List Nat × Nat) : ScanM ((List Nat × Nat) × Bool) := do
    let (octets, width) := acc
    need 3
    let c0 ← peek 0
    let c1 ← peek 1
    let c2 ← peek 2
    if ¬ (c0 = '%' ∧ isHexChar c1 ∧ isHexChar c2) then fail start "did not find URI escaped octet"
    let octet := hexCharValue c1 * 16 + hexCharValue c2
    let width ←
      if octets.isEmpty then
        let w := octetWidth octet
        if w = 0 then fail start "found an incorrect leading UTF-8 octet"
        pure w
      else
        if octet / 64 ≠ 2 then fail start "found an incorrect trailing UTF-8 octet"
        pure width
    skipN 3
    let octets := octets ++ [octet]
    return ((octets, width), octets.length < width)
  let (octets, _) ← loop 4 step ([], 0)
  return octets

/-- The text of escaped octets. The octets are kept as they are, so only well-formed UTF-8
reads as its characters: an overlong form, a surrogate or a value past U+10FFFF that the widths
let through reads as one replacement character per octet. -/
def octetText (octets : List Nat) : String := Utf8.lossy (octets.map Nat.toUInt8)

/-- Reads a tag URI after `head` (whose leading `!` is dropped); it must not be empty. -/
def tagUri (verbatim : Bool) (head : String) (start : Mark) : ScanM String := do
  let s := if 1 < head.length then String.ofList (head.toList.drop 1) else ""
  let (s, found) ← loop (← fuel) (fun (acc : String × Bool) => do
    let c ← peek 0
    if isUriChar verbatim c then
      if c = '%' then
        let octets ← uriEscapes start
        return ((acc.1 ++ octetText octets, true), true)
      else return ((← read acc.1, true), true)
    else return (acc, false)) (s, !head.isEmpty)
  if !found then fail start "did not find expected tag URI"
  return s

/-- Reads a `%YAML` or `%TAG` directive and the rest of its line. -/
def directive : ScanM Token := do
  let start ← here
  skip
  let name ← directiveName start
  let kind ←
    if name = "YAML" then do
      skipBlanks
      let major ← versionNumber start
      if (← peek 0) ≠ '.' then fail start "did not find expected digit or '.' character"
      skip
      let minor ← versionNumber start
      pure (TokenKind.versionDirective major minor)
    else if name = "TAG" then do
      skipBlanks
      let handle ← tagHandle true start
      if !isBlank (← peek 0) then fail start "did not find expected whitespace"
      skipBlanks
      let uri ← tagUri true "" start
      if !isBlankZ (← peek 0) then fail start "did not find expected whitespace or line break"
      pure (TokenKind.tagDirective handle uri)
    else fail start "found unknown directive name"
  let stop ← here
  skipBlanks
  if (← peek 0) = '#' then
    loop (← fuel) (fun _ => do
      if isBreakZ (← peek 0) then return ((), false) else skip; return ((), true)) ()
  if !isBreakZ (← peek 0) then fail start "did not find expected comment or line break"
  if isBreak (← peek 0) then skipLine
  return ⟨kind, start, stop⟩

/-! ## Anchors and tags -/

/-- Reads an anchor `&name` or an alias `*name`. -/
def anchorOrAlias (isAnchor : Bool) : ScanM Token := do
  let start ← here
  skip
  let name ← loop (← fuel) (fun acc => do
    if isWordChar (← peek 0) then return (← read acc, true) else return (acc, false)) ""
  let stop ← here
  let c ← peek 0
  if name.isEmpty ∨ ¬ (isBlankZ c ∨ "?:,]\x7d%@`".contains c) then
    fail start "did not find expected alphabetic or numeric character"
  return ⟨if isAnchor then .anchor name else .alias name, start, stop⟩

/-- Reads a tag: `!<uri>`, `!handle!suffix`, `!suffix` or `!`. -/
def tag : ScanM Token := do
  let start ← here
  need 2
  let (handle, suffix) ←
    if (← peek 1) = '<' then do
      skipN 2
      let suffix ← tagUri true "" start
      if (← peek 0) ≠ '>' then fail start "did not find the expected '>'"
      skip
      pure ("", suffix)
    else do
      let handle ← tagHandle false start
      if 1 < handle.length ∧ handle.back = '!' then
        let suffix ← tagUri false "" start
        pure (handle, suffix)
      else
        let suffix ← tagUri false handle start
        if suffix.isEmpty then pure ("", "!") else pure ("!", suffix)
  let c ← peek 0
  if !isBlankZ c then
    if (← get).flowLevel = 0 ∨ c ≠ ',' then
      fail start "did not find expected whitespace or line break"
  return ⟨.tag handle suffix, start, (← here)⟩

/-! ## Scalars -/

/-- Line folding state while reading a scalar. -/
structure Folding where
  text : String := ""
  leadingBreak : String := ""
  trailingBreaks : String := ""
  whitespaces : String := ""
  leadingBlanks : Bool := false
  deriving Inhabited

/-- Joins the pending blanks or line breaks into the text: a single line feed folds into a
space, further line breaks stay. -/
def Folding.join (f : Folding) : Folding :=
  if f.leadingBlanks then
    let text :=
      if f.leadingBreak.front = '\n' then
        if f.trailingBreaks.isEmpty then f.text.push ' ' else f.text ++ f.trailingBreaks
      else f.text ++ f.leadingBreak ++ f.trailingBreaks
    { f with text := text, leadingBreak := "", trailingBreaks := "", leadingBlanks := false }
  else { f with text := f.text ++ f.whitespaces, whitespaces := "" }

/-- Whether the next characters are a document marker `---` or `...` at the start of a line. -/
def atDocumentMarker : ScanM Bool := do
  need 4
  let s ← get
  let c0 ← peek 0
  let c1 ← peek 1
  let c2 ← peek 2
  return s.mark.column = 0 ∧ ((c0 = '-' ∧ c1 = '-' ∧ c2 = '-') ∨ (c0 = '.' ∧ c1 = '.' ∧ c2 = '.'))
    ∧ isBlankZ (← peek 3)

/-- Reads blanks and line breaks inside a flow scalar into the folding state. -/
def flowBlanks (f : Folding) : ScanM Folding := do
  loop (← fuel) (fun f => do
    let c ← peek 0
    if isBlank c then
      if !f.leadingBlanks then return ({ f with whitespaces := (← read f.whitespaces) }, true)
      else skip; return (f, true)
    else if isBreak c then
      if !f.leadingBlanks then
        let lb ← readLine ""
        return ({ f with whitespaces := "", leadingBreak := lb, leadingBlanks := true }, true)
      else return ({ f with trailingBreaks := (← readLine f.trailingBreaks) }, true)
    else return (f, false)) f

/-- Reads the value of an escape code of `n` hex digits. -/
def escapeCode (start : Mark) (n : Nat) : ScanM Char := do
  need n
  let value ← loop n (fun (acc : Nat × Nat) => do
    let c ← peek acc.2
    if !isHexChar c then fail start "did not find expected hexdecimal number"
    return ((acc.1 * 16 + hexCharValue c, acc.2 + 1), true)) (0, 0)
  if (0xD800 ≤ value.1 ∧ value.1 ≤ 0xDFFF) ∨ 0x10FFFF < value.1 then
    fail start "found invalid Unicode character escape code"
  skipN n
  return Char.ofNat value.1

/-- The character of a one-letter escape in a double-quoted scalar. -/
def simpleEscape (c : Char) : Option Char :=
  if c = '0' then some '\x00' else if c = 'a' then some '\x07'
  else if c = 'b' then some '\x08' else if c = 't' ∨ c = '\t' then some '\t'
  else if c = 'n' then some '\n' else if c = 'v' then some '\x0b'
  else if c = 'f' then some '\x0c' else if c = 'r' then some '\r'
  else if c = 'e' then some '\x1b' else if c = ' ' then some ' '
  else if c = '"' then some '"' else if c = '\'' then some '\''
  else if c = '\\' then some '\\' else if c = 'N' then some (Char.ofNat 0x85)
  else if c = '_' then some (Char.ofNat 0xA0) else if c = 'L' then some (Char.ofNat 0x2028)
  else if c = 'P' then some (Char.ofNat 0x2029) else none

/-- Reads a single- or double-quoted scalar. -/
def flowScalar (singleQuoted : Bool) : ScanM Token := do
  let start ← here
  skip
  let outer (f : Folding) : ScanM (Folding × Bool) := do
    if ← atDocumentMarker then fail start "found unexpected document indicator"
    if (← peek 0) = endChar ∧ (← atEnd) then
      fail start "found unexpected end of stream"
    let inner (f : Folding) : ScanM (Folding × Bool) := do
      need 2
      let c ← peek 0
      let c1 ← peek 1
      if isBlankZ c then return (f, false)
      if singleQuoted ∧ c = '\'' ∧ c1 = '\'' then
        skipN 2
        return ({ f with text := f.text.push '\'' }, true)
      if singleQuoted ∧ c = '\'' then return (f, false)
      if !singleQuoted ∧ c = '"' then return (f, false)
      if !singleQuoted ∧ c = '\\' ∧ isBreak c1 then
        need 3
        skip
        skipLine
        return ({ f with leadingBlanks := true }, false)
      if !singleQuoted ∧ c = '\\' then
        match simpleEscape c1 with
        | some e =>
          skipN 2
          return ({ f with text := f.text.push e }, true)
        | none =>
          let n := if c1 = 'x' then 2 else if c1 = 'u' then 4 else if c1 = 'U' then 8 else 0
          if n = 0 then fail start "found unknown escape character"
          skipN 2
          let e ← escapeCode start n
          return ({ f with text := f.text.push e }, true)
      return ({ f with text := (← read f.text) }, true)
    let f ← loop (← fuel) inner { f with leadingBlanks := false }
    let c ← peek 0
    if (singleQuoted ∧ c = '\'') ∨ (!singleQuoted ∧ c = '"') then return (f, false)
    let f ← flowBlanks f
    return (f.join, true)
  let f ← loop (← fuel) outer {}
  skip
  return ⟨.scalar f.text (if singleQuoted then .singleQuoted else .doubleQuoted), start, (← here)⟩

/-- Reads a plain scalar. -/
def plainScalar : ScanM Token := do
  let s ← get
  let indent := s.indent + 1
  let start := s.mark
  let outer (acc : Folding × Mark) : ScanM ((Folding × Mark) × Bool) := do
    let (f, stop) := acc
    if ← atDocumentMarker then return (acc, false)
    if (← peek 0) = '#' then return (acc, false)
    let inner (acc : Folding × Mark) : ScanM ((Folding × Mark) × Bool) := do
      let c ← peek 0
      if isBlankZ c then return (acc, false)
      let c1 ← peek 1
      if (c = ':' ∧ isBlankZ c1) ∨ (0 < (← get).flowLevel ∧ ",?[]{}".contains c) then
        return (acc, false)
      let f := if acc.1.leadingBlanks ∨ !acc.1.whitespaces.isEmpty then acc.1.join else acc.1
      let text ← read f.text
      let stop ← here
      need 2
      return (({ f with text := text }, stop), true)
    let (f, stop) ← loop (← fuel) inner (f, stop)
    let c ← peek 0
    if ¬ (isBlank c ∨ isBreak c) then return ((f, stop), false)
    let blanks (f : Folding) : ScanM (Folding × Bool) := do
      let c ← peek 0
      if isBlank c then
        if f.leadingBlanks ∧ ((← here).column : Int) < indent ∧ c = '\t' then
          fail start "found a tab character that violates indentation"
        if !f.leadingBlanks then return ({ f with whitespaces := (← read f.whitespaces) }, true)
        else skip; return (f, true)
      else if isBreak c then
        if !f.leadingBlanks then
          let lb ← readLine ""
          return ({ f with whitespaces := "", leadingBreak := lb, leadingBlanks := true }, true)
        else return ({ f with trailingBreaks := (← readLine f.trailingBreaks) }, true)
      else return (f, false)
    let f ← loop (← fuel) blanks f
    let s ← get
    if s.flowLevel = 0 ∧ (s.mark.column : Int) < indent then return ((f, stop), false)
    return ((f, stop), true)
  let (f, stop) ← loop (← fuel) outer ({}, start)
  if f.leadingBlanks then modify fun s => { s with keyAllowed := true }
  return ⟨.scalar f.text .plain, start, stop⟩

/-- Reads the indentation and empty lines before a line of a block scalar; with `indent` zero
it settles the indentation at the deepest of these lines, at least one past the enclosing
level. -/
def blockBreaks (start : Mark) (indent : Nat) (breaks : String) :
    ScanM (Nat × String × Mark) := do
  let step (acc : Nat × String × Mark) : ScanM ((Nat × String × Mark) × Bool) := do
    let (maxIndent, breaks, stop) := acc
    loop (← fuel) (fun _ => do
      if (indent = 0 ∨ (← here).column < indent) ∧ (← peek 0) = ' ' then
        skip; return ((), true)
      else return ((), false)) ()
    let col := (← here).column
    let maxIndent := max maxIndent col
    if (indent = 0 ∨ col < indent) ∧ (← peek 0) = '\t' then
      fail start "found a tab character where an indentation space is expected"
    if !isBreak (← peek 0) then return ((maxIndent, breaks, stop), false)
    let breaks ← readLine breaks
    return ((maxIndent, breaks, (← here)), true)
  let (maxIndent, breaks, stop) ← loop (← fuel) step (0, breaks, (← here))
  if indent ≠ 0 then return (indent, breaks, stop)
  let enclosing := (← get).indent + 1
  let settled := max (max (maxIndent : Int) enclosing) 1
  return (settled.toNat, breaks, stop)

/-- Reads a literal (`|`) or folded (`>`) block scalar. -/
def blockScalar (literal : Bool) : ScanM Token := do
  let start ← here
  skip
  let c ← peek 0
  let (chomping, increment) ←
    if c = '+' ∨ c = '-' then do
      skip
      let d ← peek 0
      if isDigitChar d then
        if d = '0' then fail start "found an indentation indicator equal to 0"
        skip
        pure ((if c = '+' then 1 else -1 : Int), d.toNat - 48)
      else pure ((if c = '+' then 1 else -1 : Int), 0)
    else if isDigitChar c then do
      if c = '0' then fail start "found an indentation indicator equal to 0"
      skip
      let e ← peek 0
      if e = '+' ∨ e = '-' then
        skip
        pure ((if e = '+' then 1 else -1 : Int), c.toNat - 48)
      else pure ((0 : Int), c.toNat - 48)
    else pure ((0 : Int), 0)
  skipBlanks
  if (← peek 0) = '#' then
    loop (← fuel) (fun _ => do
      if isBreakZ (← peek 0) then return ((), false) else skip; return ((), true)) ()
  if !isBreakZ (← peek 0) then fail start "did not find expected comment or line break"
  if isBreak (← peek 0) then skipLine
  let enclosing := (← get).indent
  let indent : Nat :=
    if increment = 0 then 0
    else if 0 ≤ enclosing then (enclosing + increment).toNat else increment
  let (indent, trailing, stop) ← blockBreaks start indent ""
  let body (acc : String × String × String × Bool × Mark) :
      ScanM ((String × String × String × Bool × Mark) × Bool) := do
    let (text, leadingBreak, trailing, leadingBlank, stop) := acc
    if ¬ ((← here).column = indent ∧ !(← atEnd)) then
      return (acc, false)
    let trailingBlank := isBlank (← peek 0)
    let text :=
      if !literal ∧ !leadingBlank ∧ !trailingBlank ∧ leadingBreak.front = '\n' then
        if trailing.isEmpty then text.push ' ' else text
      else text ++ leadingBreak
    let text := text ++ trailing
    let leadingBlank := isBlank (← peek 0)
    let text ← loop (← fuel) (fun t => do
      if isBreakZ (← peek 0) ∧ ¬ ((← peek 0) = endChar ∧ !(← atEnd)) then
        return (t, false)
      else return (← read t, true)) text
    let leadingBreak ← readLine ""
    let (_, trailing, stop') ← blockBreaks start indent ""
    let _ := stop
    return ((text, leadingBreak, trailing, leadingBlank, stop'), true)
  let (text, leadingBreak, trailing, _, stop) ←
    loop (← fuel) body ("", "", trailing, false, stop)
  let text := if chomping ≠ -1 then text ++ leadingBreak else text
  let text := if chomping = 1 then text ++ trailing else text
  return ⟨.scalar text (if literal then .literal else .folded), start, stop⟩

/-! ## Fetching tokens -/

/-- Fetches the stream start. -/
def fetchStreamStart : ScanM Unit := do
  modify fun s => { s with indent := -1, keys := [{}], keyAllowed := true, started := true }
  push (point .streamStart (← here))

/-- Fetches the stream end, closing all levels. -/
def fetchStreamEnd : ScanM Unit := do
  let s ← get
  if s.mark.column ≠ 0 then
    set { s with mark := { s.mark with column := 0, line := s.mark.line + 1 } }
  unrollIndent (-1) (← here)
  removeKey
  modify fun s => { s with keyAllowed := false }
  push (point .streamEnd (← here))

/-- Fetches a directive. -/
def fetchDirective : ScanM Unit := do
  unrollIndent (-1) (← here)
  removeKey
  modify fun s => { s with keyAllowed := false }
  push (← directive)

/-- Fetches a document marker `---` or `...`. -/
def fetchDocumentMarker (kind : TokenKind) : ScanM Unit := do
  unrollIndent (-1) (← here)
  removeKey
  modify fun s => { s with keyAllowed := false }
  let start ← here
  skipN 3
  push ⟨kind, start, (← here)⟩

/-- Fetches `[` or `{`. -/
def fetchFlowStart (kind : TokenKind) : ScanM Unit := do
  saveKey
  enterFlow
  modify fun s => { s with keyAllowed := true }
  single kind

/-- Fetches `]` or `}`. -/
def fetchFlowEnd (kind : TokenKind) : ScanM Unit := do
  removeKey
  leaveFlow
  modify fun s => { s with keyAllowed := false }
  single kind

/-- Fetches `,`. -/
def fetchFlowEntry : ScanM Unit := do
  removeKey
  modify fun s => { s with keyAllowed := true }
  single .flowEntry

/-- Fetches `-` before a block sequence entry. -/
def fetchBlockEntry : ScanM Unit := do
  let s ← get
  if s.flowLevel = 0 then
    if !s.keyAllowed then fail s.mark "block sequence entries are not allowed in this context"
    rollIndent s.mark.column none .blockSequenceStart s.mark
  removeKey
  modify fun s => { s with keyAllowed := true }
  single .blockEntry

/-- Fetches `?` before a complex key. -/
def fetchKey : ScanM Unit := do
  let s ← get
  if s.flowLevel = 0 then
    if !s.keyAllowed then fail s.mark "mapping keys are not allowed in this context"
    rollIndent s.mark.column none .blockMappingStart s.mark
  removeKey
  modify fun s => { s with keyAllowed := s.flowLevel = 0 }
  single .key

/-- Fetches `:`, inserting the key token of a simple key before it. -/
def fetchValue : ScanM Unit := do
  let s ← get
  let i := s.keys.length - 1
  if ← keyStillValid i then
    let k := (← get).keys.getD i {}
    insertAt (k.tokenNumber - (← get).taken) (point .key k.mark)
    rollIndent k.mark.column (some k.tokenNumber) .blockMappingStart k.mark
    modify fun s => { s with
      keys := s.keys.set i { k with possible := false }
      keyOfToken := s.keyOfToken.filter (·.1 ≠ k.tokenNumber)
      keyAllowed := false }
  else
    let s ← get
    if s.flowLevel = 0 then
      if !s.keyAllowed then fail s.mark "mapping values are not allowed in this context"
      rollIndent s.mark.column none .blockMappingStart s.mark
    modify fun s => { s with keyAllowed := s.flowLevel = 0 }
  single .value

/-- Fetches an anchor or an alias. -/
def fetchAnchor (isAnchor : Bool) : ScanM Unit := do
  saveKey
  modify fun s => { s with keyAllowed := false }
  push (← anchorOrAlias isAnchor)

/-- Fetches a tag. -/
def fetchTag : ScanM Unit := do
  saveKey
  modify fun s => { s with keyAllowed := false }
  push (← tag)

/-- Fetches a block scalar. -/
def fetchBlockScalar (literal : Bool) : ScanM Unit := do
  removeKey
  modify fun s => { s with keyAllowed := true }
  push (← blockScalar literal)

/-- Fetches a quoted scalar. -/
def fetchFlowScalar (singleQuoted : Bool) : ScanM Unit := do
  saveKey
  modify fun s => { s with keyAllowed := false }
  push (← flowScalar singleQuoted)

/-- Fetches a plain scalar. -/
def fetchPlainScalar : ScanM Unit := do
  saveKey
  modify fun s => { s with keyAllowed := false }
  push (← plainScalar)

/-- Whether a character may start a plain scalar given the one after it. -/
def startsPlain (flow : Bool) (c c1 : Char) : Bool :=
  !(isBlankZ c || "-?:,[]{}#&*!|>'\"%@`".contains c) ||
    (c = '-' && !isBlank c1) || (!flow && (c = '?' || c = ':') && !isBlankZ c1)

/-- Fetches the next token. After any token but the stream's start and end, a directive and
a document marker, a comment that ends the token's line is moved past. -/
def fetchNext : ScanM Unit := do
  need 1
  if !(← get).started then fetchStreamStart
  else
    let scanMark ← here
    skipToToken
    unrollIndent ((← here).column) scanMark
    need 4
    let s ← get
    let c ← peek 0
    let c1 ← peek 1
    let c2 ← peek 2
    let c3 ← peek 3
    let flow := 0 < s.flowLevel
    if ← atEnd then fetchStreamEnd
    else if s.mark.column = 0 ∧ c = '%' then fetchDirective
    else if s.mark.column = 0 ∧ c = '-' ∧ c1 = '-' ∧ c2 = '-' ∧ isBlankZ c3 then
      fetchDocumentMarker .documentStart
    else if s.mark.column = 0 ∧ c = '.' ∧ c1 = '.' ∧ c2 = '.' ∧ isBlankZ c3 then
      fetchDocumentMarker .documentEnd
    else
      if c = '[' then fetchFlowStart .flowSequenceStart
      else if c = '{' then fetchFlowStart .flowMappingStart
      else if c = ']' then fetchFlowEnd .flowSequenceEnd
      else if c = '}' then fetchFlowEnd .flowMappingEnd
      else if c = ',' then fetchFlowEntry
      else if c = '-' ∧ isBlankZ c1 then fetchBlockEntry
      else if c = '?' ∧ (flow ∨ isBlankZ c1) then fetchKey
      else if c = ':' ∧ (flow ∨ isBlankZ c1) then fetchValue
      else if c = '*' then fetchAnchor false
      else if c = '&' then fetchAnchor true
      else if c = '!' then fetchTag
      else if c = '|' ∧ !flow then fetchBlockScalar true
      else if c = '>' ∧ !flow then fetchBlockScalar false
      else if c = '\'' then fetchFlowScalar true
      else if c = '"' then fetchFlowScalar false
      else if startsPlain flow c c1 then fetchPlainScalar
      else fail s.mark "found character that cannot start any token"
      lineComment

/-- Fetches tokens until the first of the queue can be handed out: at least three are queued
and the first is not a possible simple key. -/
def fetchMore : Nat → ScanM Unit
  | 0 => modify fun s => { s with ready := true }
  | n + 1 => do
    let s ← get
    if 2 < s.queue.length then
      match s.keyOfToken.lookup s.taken with
      | none => modify fun s => { s with ready := true }
      | some i =>
        if ← keyStillValid i then
          fetchNext
          fetchMore n
        else modify fun s => { s with ready := true }
    else
      fetchNext
      fetchMore n

/-- The next token, fetching as needed. -/
def peekToken : ScanM Token := do
  if !(← get).ready then fetchMore (2 * (← get).rest.length + 16)
  return (← get).queue.headD (point .streamEnd (← here))

/-- Takes the next token. -/
def skipToken : ScanM Unit := modify fun s =>
  { s with ready := false, taken := s.taken + 1, queue := s.queue.drop 1 }

end Scanner

/-- A scanner over what the reader hands out. -/
def Scanner.ofInput (input : Input) : Scanner :=
  { rest := input.chars, fault := input.fault, heldBack := input.heldBack, reads := input.reads }

end SoundControl.Yaml
