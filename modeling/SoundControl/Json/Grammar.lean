import SoundControl.Text.Quoted

/-! # JSON grammar

The check that a byte string is one JSON value, as an automaton that reads one byte at a time and
names the first byte that cannot come next. -/

namespace SoundControl.JsonGrammar

/-- An open container. -/
inductive Frame where
  /-- An object that expects a key next. -/
  | objectKey
  /-- An object that expects a value next. -/
  | objectValue
  /-- An array. -/
  | array
  deriving DecidableEq, Repr

/-- What may come next. -/
inductive State where
  | beginValue
  | beginValueOrEmpty
  | beginStringOrEmpty
  | beginString
  | endValue
  | endTop
  | inString
  | inStringEsc
  /-- Inside a `\u` escape whose four hex digits have been checked, with `n` still to read. -/
  | inStringEscU (n : Nat)
  | neg
  | zero
  | one
  | dot
  | dot0
  | exp
  | expSign
  | exp0
  /-- Inside a literal: the letters still to read and the whole word. -/
  | literal (rest : List Char) (word : String)
  deriving DecidableEq, Repr

/-- The blanks between tokens. -/
def isSpace (c : UInt8) : Bool := c == 0x20 || c == 0x09 || c == 0x0A || c == 0x0D

/-- The character the bytes start with, between single quotes: the UTF-8 character, or the
first byte as `\x` and two hex digits when it starts none. -/
def quoteFirst (bs : Bytes) : String :=
  match Utf8.scalar? bs with
  | some (n, _) => Quoted.quoteCode n
  | none => String.ofList ('\'' :: Quoted.byteEscape (bs.headD 0).toNat ++ ['\''])

/-- The error for the character the bytes start with, in the given context. -/
def invalid (bs : Bytes) (context : String) : String :=
  "invalid character " ++ quoteFirst bs ++ " " ++ context

/-- Whether an escape has to be quoted to be shown: it holds a stray byte, a backquote, U+FFFD,
a space, or a character that is not printable. -/
def needsQuoting (escape : Bytes) : Bool :=
  (Utf8.pieces escape).any fun
    | .stray _ => true
    | .scalar c => c.toNat = 0x60 || c.toNat = 0xFFFD || c = ' ' || !Printable.isPrintable c.toNat

/-- The error for an escape that is not one of the JSON escapes. -/
def invalidEscape (escape : Bytes) : String :=
  let shown :=
    if needsQuoting escape then Quoted.quote escape
    else "`" ++ Utf8.lossy escape ++ "`"
  "invalid escape sequence " ++ shown ++ " in string"

/-- The error for input that ends inside a value. -/
def unexpectedEnd : String := "unexpected end of JSON input"

/-- The most containers that may be open at once. -/
def maxNesting : Nat := 10000

/-- Whether a byte is a decimal digit. -/
def isDigit (c : UInt8) : Bool := 0x30 ≤ c && c ≤ 0x39

/-- Whether a byte is a hex digit. -/
def isHex (c : UInt8) : Bool :=
  isDigit c || (0x61 ≤ c && c ≤ 0x66) || (0x41 ≤ c && c ≤ 0x46)

/-- The escapes of one character after the backslash: `b f n r t \ / "`. -/
def shortEscapes : List UInt8 := [0x62, 0x66, 0x6E, 0x72, 0x74, 0x5C, 0x2F, 0x22]

/-- After `\u`, given the bytes that follow the `u`: the state that reads the four hex digits, or
the error. When fewer than four bytes are left, hex digits only are input cut short; anything
else is an invalid escape made of all that is left. -/
def unicodeEscape (rest : Bytes) (stack : List Frame) : Except String (State × List Frame) :=
  let digits := rest.take 4
  if digits.all isHex then .ok (.inStringEscU 4, stack)
  else .error (invalidEscape (0x5C :: 0x75 :: digits))

/-- Opens a container. -/
def push (frame : Frame) (next : State) (stack : List Frame) :
    Except String (State × List Frame) :=
  if stack.length + 1 > maxNesting then .error "exceeded max depth"
  else .ok (next, frame :: stack)

/-- Closes the innermost container. -/
def pop : List Frame → State × List Frame
  | [] => (.endTop, [])
  | [_] => (.endTop, [])
  | _ :: rest => (.endValue, rest)

/-- After a complete value, at the byte `c` followed by `rest`. -/
def endValue (c : UInt8) (rest : Bytes) (stack : List Frame) :
    Except String (State × List Frame) :=
  match stack with
  | [] =>
    if isSpace c then .ok (.endTop, []) else .error (invalid (c :: rest) "after top-level value")
  | frame :: more =>
    if isSpace c then .ok (.endValue, stack)
    else match frame with
      | .objectKey =>
        if c == 0x3A then .ok (.beginValue, .objectValue :: more)
        else .error (invalid (c :: rest) "after object key")
      | .objectValue =>
        if c == 0x2C then .ok (.beginString, .objectKey :: more)
        else if c == 0x7D then .ok (pop stack)
        else .error (invalid (c :: rest) "after object key:value pair")
      | .array =>
        if c == 0x2C then .ok (.beginValue, stack)
        else if c == 0x5D then .ok (pop stack)
        else .error (invalid (c :: rest) "after array element")

/-- At the start of a value. -/
def beginValue (c : UInt8) (rest : Bytes) (stack : List Frame) :
    Except String (State × List Frame) :=
  if isSpace c then .ok (.beginValue, stack)
  else if c == 0x7B then push .objectKey .beginStringOrEmpty stack
  else if c == 0x5B then push .array .beginValueOrEmpty stack
  else if c == 0x22 then .ok (.inString, stack)
  else if c == 0x2D then .ok (.neg, stack)
  else if c == 0x30 then .ok (.zero, stack)
  else if c == 0x74 then .ok (.literal ['r', 'u', 'e'] "true", stack)
  else if c == 0x66 then .ok (.literal ['a', 'l', 's', 'e'] "false", stack)
  else if c == 0x6E then .ok (.literal ['u', 'l', 'l'] "null", stack)
  else if isDigit c then .ok (.one, stack)
  else .error (invalid (c :: rest) "looking for beginning of value")

/-- After the digits of a number's integer part (or after its leading zero). -/
def afterInteger (c : UInt8) (rest : Bytes) (stack : List Frame) :
    Except String (State × List Frame) :=
  if c == 0x2E then .ok (.dot, stack)
  else if c == 0x65 || c == 0x45 then .ok (.exp, stack)
  else endValue c rest stack

/-- The error for a byte that cannot continue a number. -/
def inNumber (c : UInt8) (rest : Bytes) : Except String (State × List Frame) :=
  .error (invalid (c :: rest) "in numeric literal")

/-- One step of the automaton, at the byte `c` followed by `rest`. -/
def step (c : UInt8) (rest : Bytes) : State → List Frame → Except String (State × List Frame)
  | .beginValue, stack => beginValue c rest stack
  | .beginValueOrEmpty, stack =>
    if isSpace c then .ok (.beginValueOrEmpty, stack)
    else if c == 0x5D then endValue c rest stack
    else beginValue c rest stack
  | .beginStringOrEmpty, stack =>
    if isSpace c then .ok (.beginStringOrEmpty, stack)
    else if c == 0x7D then endValue c rest (.objectValue :: stack.drop 1)
    else if c == 0x22 then .ok (.inString, stack)
    else .error (invalid (c :: rest) "looking for beginning of object key string")
  | .beginString, stack =>
    if isSpace c then .ok (.beginString, stack)
    else if c == 0x22 then .ok (.inString, stack)
    else .error (invalid (c :: rest) "looking for beginning of object key string")
  | .endValue, stack => endValue c rest stack
  | .endTop, stack =>
    if isSpace c then .ok (.endTop, stack)
    else .error (invalid (c :: rest) "after top-level value")
  | .inString, stack =>
    if c == 0x22 then .ok (.endValue, stack)
    else if c == 0x5C then .ok (.inStringEsc, stack)
    else if c < 0x20 then .error (invalid (c :: rest) "in string")
    else .ok (.inString, stack)
  | .inStringEsc, stack =>
    if shortEscapes.contains c then .ok (.inString, stack)
    else if c == 0x75 then unicodeEscape rest stack
    else .error (invalidEscape [0x5C, c])
  | .inStringEscU n, stack => .ok (if n ≤ 1 then .inString else .inStringEscU (n - 1), stack)
  | .neg, stack =>
    if c == 0x30 then .ok (.zero, stack)
    else if isDigit c then .ok (.one, stack)
    else inNumber c rest
  | .one, stack => if isDigit c then .ok (.one, stack) else afterInteger c rest stack
  | .zero, stack => afterInteger c rest stack
  | .dot, stack => if isDigit c then .ok (.dot0, stack) else inNumber c rest
  | .dot0, stack =>
    if isDigit c then .ok (.dot0, stack)
    else if c == 0x65 || c == 0x45 then .ok (.exp, stack)
    else endValue c rest stack
  | .exp, stack =>
    if c == 0x2B || c == 0x2D then .ok (.expSign, stack)
    else if isDigit c then .ok (.exp0, stack)
    else inNumber c rest
  | .expSign, stack => if isDigit c then .ok (.exp0, stack) else inNumber c rest
  | .exp0, stack => if isDigit c then .ok (.exp0, stack) else endValue c rest stack
  | .literal [] _, stack => endValue c rest stack
  | .literal (l :: ls) word, stack =>
    if c.toNat = l.toNat then .ok (if ls.isEmpty then .endValue else .literal ls word, stack)
    else .error (invalid (c :: rest)
      ("in literal " ++ word ++ " (expecting " ++ Quoted.quoteCode l.toNat ++ ")"))

/-- Runs the automaton over the bytes. -/
def run : State → List Frame → Bytes → Except String (State × List Frame)
  | s, stack, [] => .ok (s, stack)
  | s, stack, c :: rest =>
    match step c rest s stack with
    | .error e => .error e
    | .ok (s', stack') => run s' stack' rest

/-- Whether the input may end in this state: after a whole value at the top, a number whose
last character could be its last included. -/
def accepts : State → List Frame → Bool
  | .endTop, [] | .endValue, [] | .zero, [] | .one, [] | .dot0, [] | .exp0, [] => true
  | _, _ => false

/-- Checks that the bytes are one JSON value between blanks; the error text names the first
byte that cannot come next. -/
def check (bs : Bytes) : Except String Unit :=
  match run .beginValue [] bs with
  | .error e => .error e
  | .ok (s, stack) => if accepts s stack then .ok () else .error unexpectedEnd

end SoundControl.JsonGrammar
