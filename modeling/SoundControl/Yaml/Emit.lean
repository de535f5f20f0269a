import SoundControl.Yaml.Resolve
import SoundControl.Text.Base64

/-! # Writing YAML

Values written as a block document, each string plainly, quoted or as a literal block as its
text needs, and bytes that are not UTF-8 as base64 under `!!binary`. -/

namespace SoundControl.Yaml

mutual

/-- A value to write. -/
inductive Value where
  | text (s : Bytes)
  | number (n : Nat)
  | mapping (entries : List Entry)
  | sequence (items : List Value)

/-- A key of a mapping and its value. -/
inductive Entry where
  | mk (key : String) (value : Value)

end

/-- How a scalar is written. -/
inductive Style where
  | plain
  | singleQuoted
  | doubleQuoted
  | literal
  deriving DecidableEq, Repr

/-- The apostrophe, which quotes single-quoted scalars. -/
def apostrophe : Char := Char.ofNat 39

/-- The backtick. -/
def backtick : Char := Char.ofNat 96

/-- Whether a character may be written as it is. -/
def isPrintable (c : Char) : Bool :=
  let n := c.toNat
  n = 0x0A || (0x20 ≤ n && n ≤ 0x7E) || (0xA0 ≤ n && n ≤ 0xD7FF) ||
    (0xE000 ≤ n && n ≤ 0xFFFD && n ≠ 0xFEFF)

/-- A blank, a line break or a NUL. -/
def isBlankOrNul (c : Char) : Bool := isBlank c || isBreak c || c = endChar

/-! ## Analysis -/

/-- What the characters of a scalar allow. -/
structure Allowed where
  multiline : Bool
  flowPlain : Bool
  blockPlain : Bool
  singleQuoted : Bool
  block : Bool
  deriving Repr

/-- What a pass over a scalar's characters has seen. -/
structure Seen where
  blockIndicators : Bool := false
  flowIndicators : Bool := false
  lineBreaks : Bool := false
  special : Bool := false
  tabs : Bool := false
  leadingSpace : Bool := false
  leadingBreak : Bool := false
  trailingSpace : Bool := false
  trailingBreak : Bool := false
  breakSpace : Bool := false
  spaceBreak : Bool := false
  precededByWhitespace : Bool := true
  previousSpace : Bool := false
  previousBreak : Bool := false

/-- The characters that are indicators at the start of a scalar. -/
def leadIndicators : List Char :=
  ['#', ',', '[', ']', '{', '}', '&', '*', '!', '|', '>', apostrophe, '"', '%', '@', backtick]

/-- Looks at one character, the first one when `first` holds, with what follows it. -/
def Seen.step (s : Seen) (first : Bool) (c : Char) (rest : List Char) : Seen :=
  let followed := match rest with
    | [] => true
    | d :: _ => isBlank d
  let (flow, block) : Bool × Bool :=
    if first then
      if leadIndicators.contains c then (true, true)
      else if c = '?' ∨ c = ':' then (true, followed)
      else if c = '-' then (followed, followed)
      else (false, false)
    else
      if [',', '?', '[', ']', '{', '}'].contains c then (true, false)
      else if c = ':' then (true, followed)
      else if c = '#' then (s.precededByWhitespace, s.precededByWhitespace)
      else (false, false)
  let s := { s with
    flowIndicators := s.flowIndicators || flow
    blockIndicators := s.blockIndicators || block
    tabs := s.tabs || c = '\t'
    special := s.special || (c ≠ '\t' && !isPrintable c) }
  let last := rest.isEmpty
  let s :=
    if c = ' ' then
      { s with
        leadingSpace := s.leadingSpace || first
        trailingSpace := s.trailingSpace || last
        breakSpace := s.breakSpace || s.previousBreak
        previousSpace := true
        previousBreak := false }
    else if isBreak c then
      { s with
        lineBreaks := true
        leadingBreak := s.leadingBreak || first
        trailingBreak := s.trailingBreak || last
        spaceBreak := s.spaceBreak || s.previousSpace
        previousSpace := false
        previousBreak := true }
    else
      { s with
        previousSpace := false
        previousBreak := false }
  { s with precededByWhitespace := isBlankOrNul c }

/-- Looks at every character. -/
def Seen.scan (s : Seen) (first : Bool) : List Char → Seen
  | [] => s
  | c :: rest => (s.step first c rest).scan false rest

/-- What the characters of a scalar allow. -/
def analyze (cs : List Char) : Allowed :=
  if cs.isEmpty then
    { multiline := false, flowPlain := false, blockPlain := true, singleQuoted := true,
      block := false }
  else
    let marker := cs.take 3 = ['-', '-', '-'] ∨ cs.take 3 = ['.', '.', '.']
    let s : Seen := { blockIndicators := marker, flowIndicators := marker }
    let s := s.scan true cs
    let edges := s.leadingSpace || s.leadingBreak || s.trailingSpace || s.trailingBreak
    let awkward := s.spaceBreak || s.tabs || s.special
    let noPlain := edges || s.breakSpace || awkward || s.lineBreaks
    { multiline := s.lineBreaks
      flowPlain := !(noPlain || s.flowIndicators)
      blockPlain := !(noPlain || s.blockIndicators)
      singleQuoted := !(s.breakSpace || awkward)
      block := !(s.trailingSpace || s.spaceBreak || s.special) }

/-! ## Which strings need quotes -/

/-- The words that older readers take as booleans. -/
def isOldBool (s : String) : Bool :=
  ["y", "Y", "yes", "Yes", "YES", "on", "On", "ON", "n", "N", "no", "No", "NO", "off", "Off",
    "OFF"].contains s

/-- Whether a character is a digit or an underscore. -/
def isDigitOrUnderscore (c : Char) : Bool := isDigitChar c || c = '_'

/-- The groups `:ss` of a sexagesimal number and its fraction, up to the end. -/
def sexagesimalGroups (sawGroup : Bool) : List Char → Bool
  | ':' :: a :: b :: rest =>
    if '0' ≤ a ∧ a ≤ '5' ∧ isDigitChar b then sexagesimalGroups true rest
    else if isDigitChar a then sexagesimalGroups true (b :: rest)
    else false
  | [':', a] => isDigitChar a
  | '.' :: rest => sawGroup && rest.all isDigitOrUnderscore
  | [] => sawGroup
  | _ => false

/-- Whether a text is a float in base 60 such as `1:30.5`, which older readers take as a
number. -/
def isBase60Float (cs : List Char) : Bool :=
  let body := match cs with
    | c :: r => if c = '-' ∨ c = '+' then r else cs
    | [] => []
  match body with
  | d :: rest =>
    isDigitChar d && sexagesimalGroups false (rest.dropWhile isDigitOrUnderscore)
  | [] => false

/-- Whether a string may be written plainly: it reads back as a string, and older readers
take it as one too. -/
def canBePlain (s : String) : Bool :=
  plainTag s = "!!str" && !isBase60Float s.toList && !isOldBool s

/-- Base64 text for bytes, cut into lines of 70 characters each ended by a line break when it
is longer than one line. -/
def base64Lines (bs : Bytes) : List Char :=
  let text := Base64.encode bs
  if text.length < 70 then text
  else
    let rec lines : Nat → List Char → List Char
      | 0, _ => []
      | fuel + 1, cs =>
        if cs.isEmpty then [] else cs.take 70 ++ '\n' :: lines fuel (cs.drop 70)
    lines text.length text

/-! ## The writer -/

/-- The state of the writer: the text so far, the column, whether the last thing written was
white space, and whether only indentation stands on the current line. -/
structure Emitter where
  out : Array Char := #[]
  column : Nat := 0
  whitespace : Bool := true
  indention : Bool := true

/-- The writer monad. -/
abbrev EmitM := StateM Emitter

namespace Emitter

/-- Writes a character on the current line. -/
def put (c : Char) : EmitM Unit :=
  modify fun e => { e with out := e.out.push c, column := e.column + 1 }

/-- Writes characters on the current line. -/
def putAll (cs : List Char) : EmitM Unit :=
  modify fun e => { e with out := cs.foldl Array.push e.out, column := e.column + cs.length }

/-- Ends the line. -/
def putBreak : EmitM Unit :=
  modify fun e => { e with out := e.out.push '\n', column := 0, indention := true }

/-- Writes a line break of the text. -/
def writeBreak (c : Char) : EmitM Unit :=
  if c = '\n' then putBreak
  else modify fun e => { e with out := e.out.push c, column := 0, indention := true }

/-- Goes to a fresh line at the indentation, unless the current line holds only indentation
short of it. -/
def writeIndent (indent : Int) : EmitM Unit := do
  let ind := indent.toNat
  let e ← get
  if !e.indention || e.column > ind || (e.column = ind && !e.whitespace) then putBreak
  let e ← get
  putAll (List.replicate (ind - e.column) ' ')
  modify fun e => { e with whitespace := true }

/-- Writes an indicator, after a space if it needs white space before it. -/
def writeIndicator (s : List Char) (needWhitespace isWhitespace isIndention : Bool) :
    EmitM Unit := do
  if needWhitespace && !(← get).whitespace then put ' '
  putAll s
  modify fun e => { e with whitespace := isWhitespace, indention := e.indention && isIndention }

/-- Writes the characters of a plain scalar; the flag tells whether the last character that is
not a space was a line break, so that the next other character starts an indented line. -/
def plainChars (indent : Nat) : Bool → List Char → EmitM Unit
  | _, [] => pure ()
  | breaks, c :: rest => do
    if c = ' ' then
      put c
      plainChars indent breaks rest
    else if isBreak c then
      if !breaks && c = '\n' then putBreak
      writeBreak c
      plainChars indent true rest
    else
      if breaks then writeIndent indent
      put c
      modify fun e => { e with indention := false }
      plainChars indent false rest

/-- Writes a plain scalar. -/
def writePlain (indent : Nat) (cs : List Char) : EmitM Unit := do
  if !cs.isEmpty && !(← get).whitespace then put ' '
  plainChars indent false cs
  modify fun e => { e with whitespace := e.whitespace && cs.isEmpty, indention := false }

/-- Writes the characters of a single-quoted scalar. After line breaks the indentation is
written only when a character other than a space or a break follows. -/
def singleChars (indent : Nat) : Bool → List Char → EmitM Unit
  | _, [] => pure ()
  | breaks, c :: rest => do
    if c = ' ' then
      put c
      singleChars indent breaks rest
    else if isBreak c then
      if !breaks && c = '\n' then putBreak
      writeBreak c
      singleChars indent true rest
    else
      if breaks then writeIndent indent
      if c = apostrophe then put apostrophe
      put c
      modify fun e => { e with indention := false }
      singleChars indent false rest

/-- Writes a single-quoted scalar; the closing quote follows a final line break directly. -/
def writeSingleQuoted (indent : Nat) (cs : List Char) : EmitM Unit := do
  writeIndicator [apostrophe] true false false
  singleChars indent false cs
  writeIndicator [apostrophe] false false false
  modify fun e => { e with whitespace := false, indention := false }

/-- An uppercase hex digit. -/
def hexDigit (n : Nat) : Char := if n < 10 then Char.ofNat (48 + n) else Char.ofNat (55 + n)

/-- The escape of a character in a double-quoted scalar, after the backslash. -/
def escape (c : Char) : List Char :=
  let v := c.toNat
  if v = 0 then ['0']
  else if v = 0x07 then ['a']
  else if v = 0x08 then ['b']
  else if v = 0x09 then ['t']
  else if v = 0x0A then ['n']
  else if v = 0x0B then ['v']
  else if v = 0x0C then ['f']
  else if v = 0x0D then ['r']
  else if v = 0x1B then ['e']
  else if v = 0x22 then ['"']
  else if v = 0x5C then ['\\']
  else if v = 0x85 then ['N']
  else if v = 0xA0 then ['_']
  else if v = 0x2028 then ['L']
  else if v = 0x2029 then ['P']
  else
    let (letter, count) := if v ≤ 0xFF then ('x', 2) else if v ≤ 0xFFFF then ('u', 4) else ('U', 8)
    letter :: (List.range count).reverse.map fun k => hexDigit (v / Nat.pow 16 k % 16)

/-- Whether a character is escaped in a double-quoted scalar. The byte order mark is tested
at the start of the scalar, not at the character: in a scalar that starts with one, every
character is escaped, spaces and letters too. -/
def isEscaped (marked : Bool) (c : Char) : Bool :=
  !isPrintable c || marked || isBreak c || c = '"' || c = '\\'

/-- Writes the characters of a double-quoted scalar: each on the current line, escaped where
it has to be; `marked` says that the scalar starts with a byte order mark. -/
def doubleChars (marked : Bool) : List Char → EmitM Unit
  | [] => pure ()
  | c :: rest => do
    if isEscaped marked c then
      put '\\'
      putAll (escape c)
    else put c
    doubleChars marked rest

/-- Writes a double-quoted scalar. -/
def writeDoubleQuoted (cs : List Char) : EmitM Unit := do
  writeIndicator ['"'] true false false
  doubleChars (cs.head? = some '\uFEFF') cs
  writeIndicator ['"'] false false false
  modify fun e => { e with whitespace := false, indention := false }

/-- The chomping indicator of a literal block: `-` when the text does not end in a line break,
`+` when it ends in two or is one, and none otherwise. -/
def chomping (cs : List Char) : List Char :=
  match cs.reverse with
  | [] => ['-']
  | [c] => if isBreak c then ['+'] else ['-']
  | c :: d :: _ => if !isBreak c then ['-'] else if isBreak d then ['+'] else []

/-- Writes the characters of a literal block. -/
def literalChars (indent : Nat) : Bool → List Char → EmitM Unit
  | _, [] => pure ()
  | breaks, c :: rest => do
    if isBreak c then
      writeBreak c
      literalChars indent true rest
    else
      if breaks then writeIndent indent
      put c
      modify fun e => { e with indention := false }
      literalChars indent false rest

/-- Writes a literal block: its indicators, then the lines at the indentation. No line break of
its own follows the indicators: a text that starts with a line break has that break stand right
after them, and otherwise the first line goes to a fresh line as it is indented. -/
def writeLiteral (indent : Nat) (cs : List Char) : EmitM Unit := do
  writeIndicator ['|'] true false false
  match cs with
  | c :: _ => if c = ' ' ∨ isBreak c then writeIndicator ['4'] false false false
  | [] => pure ()
  let chomp := chomping cs
  if !chomp.isEmpty then writeIndicator chomp false false false
  modify fun e => { e with whitespace := true }
  literalChars indent true cs

/-- The style a scalar is written in, from the style asked for and what its characters
allow in a block context. -/
def selectStyle (asked : Style) (a : Allowed) : Style :=
  let s := if asked = .plain ∧ !a.blockPlain then .singleQuoted else asked
  let s := if s = .singleQuoted ∧ !a.singleQuoted then .doubleQuoted else s
  if s = .literal ∧ !a.block then .doubleQuoted else s

/-- Writes a tag in its short form. -/
def writeTag (suffix : String) : EmitM Unit := do
  if !(← get).whitespace then put ' '
  putAll ('!' :: '!' :: suffix.toList)
  modify fun e => { e with whitespace := false, indention := false }

/-- Writes a scalar of a block context at the indentation, with an optional tag. -/
def writeScalar (indent : Nat) (tag : Option String) (asked : Style) (cs : List Char) :
    EmitM Unit := do
  let style := selectStyle asked (analyze cs)
  match tag with
  | some t => writeTag t
  | none => pure ()
  match style with
  | .plain => writePlain indent cs
  | .singleQuoted => writeSingleQuoted indent cs
  | .doubleQuoted => writeDoubleQuoted cs
  | .literal => writeLiteral indent cs

/-- Writes a string: plainly if it reads back as itself, in a literal block if it holds a
line feed, in double quotes otherwise, and as tagged base64 if it is not UTF-8. -/
def writeText (indent : Nat) (s : Bytes) : EmitM Unit :=
  if Utf8.valid s then
    let str := Utf8.lossy s
    let cs := str.toList
    let asked : Style :=
      if cs.contains '\n' then .literal else if canBePlain str then .plain else .doubleQuoted
    writeScalar indent none asked cs
  else
    let cs := base64Lines s
    writeScalar indent (some "binary") (if cs.contains '\n' then .literal else .plain) cs

/-- The indentation of a node: a block node at the top starts at column 0 and a scalar at the
top at column 4; in a sequence item a node starts two columns past the dash; elsewhere it is
four columns deeper, rounded down to a multiple of four. -/
def deeper (indent : Int) (scalar inItem : Bool) : Int :=
  if indent < 0 then (if scalar then 4 else 0)
  else if inItem then indent + 2
  else 4 * ((indent + 4) / 4)

mutual

/-- Writes a value held at the indentation, in a sequence item when `inItem` holds. -/
def writeValue (indent : Int) (inItem : Bool) : Value → EmitM Unit
  | .text s => writeText (deeper indent true inItem).toNat s
  | .number n => writeScalar (deeper indent true inItem).toNat none .plain (Nat.toDigits 10 n)
  | .mapping [] => do
    writeIndicator ['{'] true true false
    writeIndicator ['}'] false false false
  | .mapping entries => writeEntries (deeper indent false inItem) entries
  | .sequence [] => do
    writeIndicator ['['] true true false
    writeIndicator [']'] false false false
  | .sequence items => writeItems (deeper indent false inItem) items

/-- Writes the entries of a block mapping at its indentation. -/
def writeEntries (indent : Int) : List Entry → EmitM Unit
  | [] => pure ()
  | .mk key value :: rest => do
    writeIndent indent
    writePlain 0 key.toList
    writeIndicator [':'] false false false
    writeValue indent false value
    writeEntries indent rest

/-- Writes the items of a block sequence at its indentation. -/
def writeItems (indent : Int) : List Value → EmitM Unit
  | [] => pure ()
  | item :: rest => do
    writeIndent indent
    writeIndicator ['-'] true false true
    writeValue indent true item
    writeItems indent rest

end

end Emitter

/-- The text of a document holding one value. -/
def Value.document (v : Value) : String :=
  let run : EmitM Unit := do
    Emitter.writeValue (-1) false v
    Emitter.writeIndent 0
  String.ofList (run.run {}).2.out.toList

end SoundControl.Yaml
