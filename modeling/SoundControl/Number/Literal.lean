import SoundControl.Number.Binary
import SoundControl.Text.Quoted

/-! # Number literals

Reading integers (in base 10, or 16, 8 or 2 after a prefix, with underscores between digits)
and floats written as text, rounded once to the target format; a failure is `invalid syntax`
or `value out of range`. -/

namespace SoundControl

/-- Why a literal does not read as a number. -/
inductive NumErrorKind where
  | malformed
  | outOfRange
  deriving DecidableEq, Repr

/-- A failed number reading: the reading function, the text read and why. -/
structure NumError where
  function : String
  input : Bytes
  kind : NumErrorKind
  deriving DecidableEq, Repr

/-- The message of a failed number reading. -/
def NumError.message (e : NumError) : String :=
  "strconv." ++ e.function ++ ": parsing " ++ Quoted.quote e.input ++ ": " ++
    (match e.kind with
     | .malformed => "invalid syntax"
     | .outOfRange => "value out of range")

namespace Literal

/-- A byte in lower case, for letters. -/
def lower (c : UInt8) : UInt8 := c ||| 0x20

/-- Whether a byte is a decimal digit. -/
def isDigit (c : UInt8) : Bool := 0x30 ≤ c && c ≤ 0x39

/-- Whether a byte is a hex letter of either case. -/
def isHexLetter (c : UInt8) : Bool := 0x61 ≤ lower c && lower c ≤ 0x66

/-- Whether the underscores of a literal stand only between digits, or between a base prefix and
a digit. -/
def underscoresOk (s : Bytes) : Bool :=
  let s := match s with
    | c :: rest => if c == 0x2D || c == 0x2B then rest else s
    | [] => []
  -- what came last: 0 a digit or prefix, 1 an underscore, 2 something else, 3 nothing yet
  let (start, body, hex) := match s with
    | 0x30 :: p :: rest =>
      if lower p == 0x62 || lower p == 0x6F || lower p == 0x78 then (0, rest, lower p == 0x78)
      else (3, s, false)
    | _ => (3, s, false)
  let step (saw : Option Nat) (c : UInt8) : Option Nat :=
    match saw with
    | none => none
    | some saw =>
      if isDigit c || (hex && isHexLetter c) then some 0
      else if c == 0x5F then (if saw == 0 then some 1 else none)
      else if saw == 1 then none
      else some 2
  match body.foldl step (some start) with
  | some saw => saw != 1
  | none => false

/-- The digits of an unsigned integer in `base`, read left to right with the bound `maxVal`:
the first character that is no digit of the base is malformed, the first step beyond the
bound out of range. Underscores are skipped when `skipUnderscore` holds. -/
def digits (base maxVal : Nat) (skipUnderscore : Bool) (n : Nat) : Bytes → Except NumErrorKind Nat
  | [] => .ok n
  | c :: rest =>
    if skipUnderscore && c == 0x5F then digits base maxVal skipUnderscore n rest
    else
      let d : Nat :=
        if isDigit c then (c - 0x30).toNat
        else if 0x61 ≤ lower c && lower c ≤ 0x7A then (lower c - 0x61).toNat + 10
        else 99
      if d ≥ base then .error .malformed
      else if n * base + d > maxVal then .error .outOfRange
      else digits base maxVal skipUnderscore (n * base + d) rest

/-- Reads an unsigned integer of `bits` bits in the base its prefix gives. -/
def unsigned (bits : Nat) (s : Bytes) : Except NumErrorKind Nat :=
  if s.isEmpty then .error .malformed
  else
    let (base, body) : Nat × Bytes := match s with
      | 0x30 :: p :: c :: rest =>
        if lower p == 0x62 then (2, c :: rest)
        else if lower p == 0x6F then (8, c :: rest)
        else if lower p == 0x78 then (16, c :: rest)
        else (8, p :: c :: rest)
      | 0x30 :: rest => (8, rest)
      | _ => (10, s)
    match digits base (Nat.pow 2 bits - 1) true 0 body with
    | .error e => .error e
    | .ok n => if s.contains 0x5F && !underscoresOk s then .error .malformed else .ok n

/-- Reads a signed integer of `bits` bits, in the base its prefix gives. -/
def integer (bits : Nat) (s : Bytes) : Except NumError Int :=
  let fail (k : NumErrorKind) : Except NumError Int := .error ⟨"ParseInt", s, k⟩
  match s with
  | [] => fail .malformed
  | c :: rest =>
    let (neg, body) := if c == 0x2B then (false, rest) else if c == 0x2D then (true, rest)
      else (false, s)
    match unsigned bits body with
    | .error .malformed => fail .malformed
    | .error .outOfRange => fail .outOfRange
    | .ok n =>
      let cutoff := Nat.pow 2 (bits - 1)
      if !neg && n ≥ cutoff then fail .outOfRange
      else if neg && n > cutoff then fail .outOfRange
      else .ok (if neg then -(n : Int) else n)

/-- The length of the common prefix of `s` and the lowercase `word`, ignoring case. -/
def commonPrefixLower (s : Bytes) (word : List Char) : Nat :=
  ((s.zip word).takeWhile fun (c, w) => (lower c).toNat == w.toNat).length

/-- A special float literal at the front of `s`: its value (`none` for NaN, the sign of an
infinity otherwise) and its length. -/
def special? (s : Bytes) : Option (Option Bool × Nat) :=
  let infinity (neg : Bool) (signLen : Nat) (t : Bytes) : Option (Option Bool × Nat) :=
    let n := commonPrefixLower t "infinity".toList
    let n := if 3 < n ∧ n < 8 then 3 else n
    if n == 3 || n == 8 then some (some neg, signLen + n) else none
  match s with
  | 0x2B :: t => infinity false 1 t
  | 0x2D :: t => infinity true 1 t
  | c :: _ =>
    if lower c == 0x69 then infinity false 0 s
    else if lower c == 0x6E && commonPrefixLower s "nan".toList == 3 then some (none, 3)
    else none
  | [] => none

/-- The value of a hex or decimal digit. -/
def digitValue (c : UInt8) : Nat :=
  if isDigit c then (c - 0x30).toNat else (lower c - 0x61).toNat + 10

/-- A finite float literal as read: its sign, its significand digits as one number, the power
of the base (ten, or two for hex) that scales them, and whether it was hex. -/
structure FloatParts where
  neg : Bool
  significand : Nat
  exponent : Int
  hex : Bool

/-- Reads the significand digits: the value of all digits, how many came after the point, and
the rest. Underscores are skipped, a second point ends the digits. -/
def significandDigits (hex : Bool) (acc fracDigits : Nat) (sawDot sawDigits : Bool) :
    Bytes → Nat × Nat × Bool × Bytes
  | [] => (acc, fracDigits, sawDigits, [])
  | c :: rest =>
    if c == 0x5F then significandDigits hex acc fracDigits sawDot sawDigits rest
    else if c == 0x2E then
      if sawDot then (acc, fracDigits, sawDigits, c :: rest)
      else significandDigits hex acc fracDigits true sawDigits rest
    else if isDigit c || (hex && isHexLetter c) then
      significandDigits hex (acc * (if hex then 16 else 10) + digitValue c)
        (if sawDot then fracDigits + 1 else fracDigits) sawDot true rest
    else (acc, fracDigits, sawDigits, c :: rest)

/-- Reads the digits of an exponent, with underscores skipped; the value saturates at 10000. -/
def exponentDigits (acc : Nat) : Bytes → Nat × Bytes
  | [] => (acc, [])
  | c :: rest =>
    if c == 0x5F then exponentDigits acc rest
    else if isDigit c then exponentDigits (if acc < 10000 then acc * 10 + digitValue c else acc) rest
    else (acc, c :: rest)

/-- Reads a finite float literal at the front of `s`: the parts and the bytes after it, or
`none` when the front is no float literal. -/
def floatPrefix (s : Bytes) : Option (FloatParts × Bytes) :=
  let (neg, t) : Bool × Bytes := match s with
    | 0x2B :: t => (false, t)
    | 0x2D :: t => (true, t)
    | _ => (false, s)
  let (hex, t) : Bool × Bytes := match t with
    | 0x30 :: x :: c :: rest => if lower x == 0x78 then (true, c :: rest) else (false, t)
    | _ => (false, t)
  let (m, fracDigits, sawDigits, t) := significandDigits hex 0 0 false false t
  if !sawDigits then none
  else
    let expChar : UInt8 := if hex then 0x70 else 0x65
    let scale : Int := if hex then -4 * (fracDigits : Int) else -(fracDigits : Int)
    match t with
    | c :: rest =>
      if lower c == expChar then
        let (eneg, u) : Bool × Bytes := match rest with
          | 0x2B :: u => (false, u)
          | 0x2D :: u => (true, u)
          | _ => (false, rest)
        match u with
        | d :: _ =>
          if isDigit d then
            let (e, after) := exponentDigits 0 u
            some (⟨neg, m, scale + (if eneg then -(e : Int) else e), hex⟩, after)
          else none
        | [] => none
      else if hex then none
      else some (⟨neg, m, scale, hex⟩, c :: rest)
    | [] => if hex then none else some (⟨neg, m, scale, hex⟩, [])

/-- The bits of `(-1)^neg · m · 2^e` rounded to the format, with very large and very small
magnitudes settled without big powers. -/
def ofBinary (f : BinaryFormat) (neg : Bool) (m : Nat) (e : Int) : Nat :=
  if m = 0 then f.round neg 0 1
  else if (Nat.log2 m : Int) + e > 4000 then f.infinity neg
  else if (Nat.log2 m : Int) + e < -4000 then f.round neg 0 1
  else
    let (a, b) := powTwo e
    f.round neg (m * a) b

/-- Reads a float rounded to the format `f`, as its bits. A literal that is finite but rounds to
an infinity is a range error. -/
def float (f : BinaryFormat) (s : Bytes) : Except NumError Nat :=
  let malformed : Except NumError Nat := .error ⟨"ParseFloat", s, .malformed⟩
  match special? s with
  | some (value, n) =>
    if n ≠ s.length then malformed
    else match value with
      | none => .ok (f.infinity false + Nat.pow 2 (f.fractionBits - 1))
      | some neg => .ok (f.infinity neg)
  | none =>
    match floatPrefix s with
    | none => malformed
    | some (parts, rest) =>
      let used := s.take (s.length - rest.length)
      if !rest.isEmpty then malformed
      else if used.contains 0x5F && !underscoresOk used then malformed
      else
        let bits :=
          if parts.hex then ofBinary f parts.neg parts.significand parts.exponent
          else f.ofDecimal parts.neg parts.significand parts.exponent
        if bits % f.signBit = f.topExponent * Nat.pow 2 f.fractionBits then
          .error ⟨"ParseFloat", s, .outOfRange⟩
        else .ok bits

/-- Reads a JSON number as its sign, its digits as one number and the power of ten that scales
them. -/
def decimal? (s : String) : Option (Bool × Nat × Int) :=
  match floatPrefix (Utf8.ofString s) with
  | some (parts, []) => if parts.hex then none else some (parts.neg, parts.significand, parts.exponent)
  | _ => none

end Literal

end SoundControl
