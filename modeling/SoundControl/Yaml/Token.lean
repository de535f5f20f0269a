/-! # YAML tokens

The tokens of a YAML character stream, the positions they are found at, and the errors of
reading YAML with the line their message names. -/

namespace SoundControl.Yaml

/-- A position in the character stream. -/
structure Mark where
  index : Nat := 0
  line : Nat := 0
  column : Nat := 0
  deriving DecidableEq, Repr, Inhabited

/-- How a scalar is written. -/
inductive ScalarStyle where
  | plain
  | singleQuoted
  | doubleQuoted
  | literal
  | folded
  deriving DecidableEq, Repr, Inhabited

/-- What a token is. -/
inductive TokenKind where
  | streamStart
  | streamEnd
  | versionDirective (major minor : Nat)
  | tagDirective (handle uri : String)
  | documentStart
  | documentEnd
  | blockSequenceStart
  | blockMappingStart
  | blockEnd
  | flowSequenceStart
  | flowSequenceEnd
  | flowMappingStart
  | flowMappingEnd
  | blockEntry
  | flowEntry
  | key
  | value
  | alias (name : String)
  | anchor (name : String)
  | tag (handle suffix : String)
  | scalar (text : String) (style : ScalarStyle)
  deriving DecidableEq, Repr, Inhabited

/-- A token and the positions where it starts and ends. -/
structure Token where
  kind : TokenKind
  start : Mark
  stop : Mark
  deriving DecidableEq, Repr, Inhabited

/-- The stage of reading that found a fault. -/
inductive Stage where
  | reader
  | scanner
  | parser
  | composer
  deriving DecidableEq, Repr

/-- A fault in a YAML document. -/
structure YamlError where
  stage : Stage
  problem : String
  /-- The position of the structure being read, if any. -/
  context : Mark := {}
  /-- The position of the fault. -/
  mark : Mark := {}
  deriving DecidableEq, Repr

/-- The message of a fault. -/
def YamlError.message (e : YamlError) : String :=
  let bump := if e.stage = .scanner then 1 else 0
  let line :=
    if e.context.line ≠ 0 then e.context.line + bump
    else if e.mark.line ≠ 0 then e.mark.line + bump
    else 0
  "yaml: " ++ (if line ≠ 0 then "line " ++ toString line ++ ": " else "") ++ e.problem

/-! ## Character classes -/

/-- The character standing for the end of the input. -/
def endChar : Char := '\x00'

/-- A space or a tab. -/
def isBlank (c : Char) : Bool := c = ' ' || c = '\t'

/-- A line break: carriage return, line feed, next line, line or paragraph separator. -/
def isBreak (c : Char) : Bool :=
  c = '\r' || c = '\n' || c.toNat = 0x85 || c.toNat = 0x2028 || c.toNat = 0x2029

/-- A line break or the end of the input. -/
def isBreakZ (c : Char) : Bool := isBreak c || c = endChar

/-- A blank, a line break or the end of the input. -/
def isBlankZ (c : Char) : Bool := isBlank c || isBreakZ c

/-- A letter, digit, `_` or `-`. -/
def isWordChar (c : Char) : Bool :=
  ('0' ≤ c && c ≤ '9') || ('A' ≤ c && c ≤ 'Z') || ('a' ≤ c && c ≤ 'z') || c = '_' || c = '-'

/-- A decimal digit. -/
def isDigitChar (c : Char) : Bool := '0' ≤ c && c ≤ '9'

/-- A hex digit. -/
def isHexChar (c : Char) : Bool :=
  isDigitChar c || ('A' ≤ c && c ≤ 'F') || ('a' ≤ c && c ≤ 'f')

/-- The value of a hex digit. -/
def hexCharValue (c : Char) : Nat :=
  if 'A' ≤ c && c ≤ 'F' then c.toNat - 55
  else if 'a' ≤ c && c ≤ 'f' then c.toNat - 87
  else c.toNat - 48

end SoundControl.Yaml
