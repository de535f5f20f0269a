import SoundControl.Yaml.Token
import SoundControl.Number.Literal
import SoundControl.Moment

/-! # Resolving scalars

What the text of a scalar stands for: the type a plain scalar's text looks like, or the type of
its explicit tag. -/

namespace SoundControl.Yaml

/-- The prefix of the standard tags. -/
def longTagPrefix : String := "tag:yaml.org,2002:"

/-- A tag in its short form. -/
def shortTag (tag : String) : String :=
  if tag.toList.take longTagPrefix.length = longTagPrefix.toList then
    String.ofList ('!' :: '!' :: tag.toList.drop longTagPrefix.length)
  else tag

/-- A tag in its long form. -/
def longTag (tag : String) : String :=
  match tag.toList with
  | '!' :: '!' :: rest => longTagPrefix ++ String.ofList rest
  | _ => tag

/-- What a scalar stands for. -/
inductive Resolved where
  | null
  | bool (b : Bool)
  /-- An integer; values from `2^63` on are unsigned ones. -/
  | int (i : Int)
  /-- A float, as the bits of a double. -/
  | float (bits : Nat)
  | text (s : String)
  | timestamp (s : String)
  deriving DecidableEq, Repr

/-- The tags that resolution knows. -/
def resolvable (tag : String) : Bool :=
  ["", "!!str", "!!bool", "!!int", "!!float", "!!timestamp", "!!null"].contains tag

/-- The class of a scalar by its first character: `S` a sign, `D` a digit, `M` a letter that may
begin a word of the fixed table, `.` a point, and a blank for anything else. -/
def hintOf (c : Char) : Char :=
  if c = '+' ∨ c = '-' then 'S'
  else if isDigitChar c then 'D'
  else if "yYnNtTfFoO~".toList.contains c then 'M'
  else if c = '.' then '.'
  else ' '

/-- The bits of a double NaN. -/
def nanBits : Nat := 0x7FF8000000000001

/-- The words with a fixed meaning. -/
def fixedWord? (s : String) : Option (String × Resolved) :=
  if ["true", "True", "TRUE"].contains s then some ("!!bool", .bool true)
  else if ["false", "False", "FALSE"].contains s then some ("!!bool", .bool false)
  else if ["", "~", "null", "Null", "NULL"].contains s then some ("!!null", .null)
  else if [".nan", ".NaN", ".NAN"].contains s then some ("!!float", .float nanBits)
  else if [".inf", ".Inf", ".INF", "+.inf", "+.Inf", "+.INF"].contains s then
    some ("!!float", .float (BinaryFormat.double.infinity false))
  else if ["-.inf", "-.Inf", "-.INF"].contains s then
    some ("!!float", .float (BinaryFormat.double.infinity true))
  else if s = "<<" then some ("!!merge", .text s)
  else none

/-! ## Timestamps -/

/-- The value of a decimal digit character. -/
def digitOf (c : Char) : Nat := c.toNat - 48

/-- One or two digits at the front. -/
def shortNumber : List Char → Option (Nat × List Char)
  | a :: b :: rest =>
    if !isDigitChar a then none
    else if isDigitChar b then some (digitOf a * 10 + digitOf b, rest)
    else some (digitOf a, b :: rest)
  | [a] => if isDigitChar a then some (digitOf a, []) else none
  | [] => none

/-- Drops a fraction of a second: a point or comma and at least one digit. -/
def dropFraction : List Char → List Char
  | p :: d :: rest =>
    if (p = '.' ∨ p = ',') ∧ isDigitChar d then rest.dropWhile isDigitChar else p :: d :: rest
  | cs => cs

/-- A time of day `h:m:s` with an optional fraction: the rest after it, if it is valid. -/
def timeOfDay (cs : List Char) : Option (List Char) := do
  let (h, cs) ← shortNumber cs
  let cs ← match cs with | ':' :: r => some r | _ => none
  let (m, cs) ← shortNumber cs
  let cs ← match cs with | ':' :: r => some r | _ => none
  let (s, cs) ← shortNumber cs
  if h < 24 ∧ m < 60 ∧ s < 60 then some (dropFraction cs) else none

/-- Whether the text is a time zone `Z` or `±hh:mm`, and nothing after it. -/
def isZone : List Char → Bool
  | ['Z'] => true
  | [sign, h1, h2, ':', m1, m2] =>
    (sign = '+' ∨ sign = '-') && isDigitChar h1 && isDigitChar h2 && isDigitChar m1 &&
      isDigitChar m2 && digitOf h1 * 10 + digitOf h2 ≤ 24 && digitOf m1 * 10 + digitOf m2 ≤ 60
  | _ => false

/-- Whether a scalar is a timestamp: a date `yyyy-m-d`, alone, or followed by `T` or `t`, a
time of day and a zone, or by spaces and a time of day. -/
def isTimestamp (cs : List Char) : Bool :=
  match cs with
  | y1 :: y2 :: y3 :: y4 :: '-' :: rest =>
    if !([y1, y2, y3, y4].all isDigitChar) then false
    else
      let year := ((digitOf y1 * 10 + digitOf y2) * 10 + digitOf y3) * 10 + digitOf y4
      match shortNumber rest with
      | none => false
      | some (month, rest) =>
        match rest with
        | '-' :: rest =>
          match shortNumber rest with
          | none => false
          | some (day, rest) =>
            let dateOk := 1 ≤ month ∧ month ≤ 12 ∧ 1 ≤ day ∧ day ≤ daysIn month year
            let timeOk : Bool := match rest with
              | [] => true
              | t :: more =>
                if t = 'T' ∨ t = 't' then
                  match timeOfDay more with
                  | some zone => isZone zone
                  | none => false
                else if t = ' ' then timeOfDay (more.dropWhile (· = ' ')) = some []
                else false
            dateOk && timeOk
        | _ => false
  | _ => false

/-! ## Numbers -/

/-- An unsigned integer of at most 64 bits in a fixed base, without sign, prefix or
underscores. -/
def fixedUnsigned (base : Nat) (cs : List Char) : Option Nat :=
  if cs.isEmpty then none
  else (Literal.digits base (Nat.pow 2 64 - 1) false 0 (cs.map fun c => c.toNat.toUInt8)).toOption

/-- A signed integer of at most 64 bits in a fixed base. -/
def fixedSigned (base : Nat) (cs : List Char) : Option Int :=
  let (neg, body) : Bool × List Char := match cs with
    | '+' :: r => (false, r)
    | '-' :: r => (true, r)
    | _ => (false, cs)
  match fixedUnsigned base body with
  | none => none
  | some n =>
    if !neg ∧ Nat.pow 2 63 ≤ n then none
    else if neg ∧ Nat.pow 2 63 < n then none
    else some (if neg then -(n : Int) else n)

/-- Whether the text is a decimal float: a sign, digits with an optional point and fraction or
a point and digits, and an optional exponent. -/
def isDecimalFloat (cs : List Char) : Bool :=
  let cs := match cs with
    | c :: r => if c = '-' ∨ c = '+' then r else cs
    | [] => []
  let mantissaRest : Option (List Char) := match cs with
    | '.' :: r =>
      let ds := r.takeWhile isDigitChar
      if ds.isEmpty then none else some (r.drop ds.length)
    | _ =>
      let ds := cs.takeWhile isDigitChar
      if ds.isEmpty then none
      else match cs.drop ds.length with
        | '.' :: r => some (r.dropWhile isDigitChar)
        | r => some r
  match mantissaRest with
  | none => false
  | some [] => true
  | some (e :: r) =>
    let r := match r with
      | c :: r' => if c = '-' ∨ c = '+' then r' else r
      | [] => []
    (e = 'e' ∨ e = 'E') && !r.isEmpty && r.all isDigitChar

/-- The bytes of the characters of an ASCII text. -/
def asciiBytes (cs : List Char) : Bytes := cs.map fun c => c.toNat.toUInt8

/-- Reads the text of a scalar that starts with a digit or a sign. -/
def numberOrTimestamp (tag : String) (s : String) : String × Resolved :=
  let cs := s.toList
  if (tag = "" ∨ tag = "!!timestamp") ∧ isTimestamp cs then ("!!timestamp", .timestamp s)
  else
    let plain := cs.filter (· ≠ '_')
    let bytes := Utf8.ofString (String.ofList plain)
    match Literal.integer 64 bytes with
    | .ok i => ("!!int", .int i)
    | .error _ =>
      match Literal.unsigned 64 bytes with
      | .ok n => ("!!int", .int n)
      | .error _ =>
        let float? : Option Nat :=
          if isDecimalFloat plain then (Literal.float BinaryFormat.double bytes).toOption else none
        match float? with
        | some bits => ("!!float", .float bits)
        | none =>
          let prefixed : Option Int := match plain with
            | '0' :: 'b' :: r =>
              match fixedSigned 2 r with
              | some i => some i
              | none => (fixedUnsigned 2 r).map Int.ofNat
            | '-' :: '0' :: 'b' :: r => fixedSigned 2 ('-' :: r)
            | _ => none
          let prefixed := match prefixed with
            | some i => some i
            | none => match plain with
              | '0' :: 'o' :: r =>
                match fixedSigned 8 r with
                | some i => some i
                | none => (fixedUnsigned 8 r).map Int.ofNat
              | '-' :: '0' :: 'o' :: r => fixedSigned 8 ('-' :: r)
              | _ => none
          match prefixed with
          | some i => ("!!int", .int i)
          | none => ("!!str", .text s)

/-- What a scalar's text stands for under a tag that resolution knows, before the tag is
checked. -/
def resolveKnown (tag : String) (s : String) : String × Resolved :=
  let hint := match s.toList with
    | [] => 'N'
    | c :: _ => hintOf c
  if hint = ' ' ∨ tag = "!!str" then ("!!str", .text s)
  else
    match fixedWord? s with
    | some r => r
    | none =>
      if hint = '.' then
        match Literal.float BinaryFormat.double (Utf8.ofString s) with
        | .ok bits => ("!!float", .float bits)
        | .error _ => ("!!str", .text s)
      else if hint = 'S' ∨ hint = 'D' then numberOrTimestamp tag s
      else ("!!str", .text s)

/-- The double nearest to an integer. -/
def intToFloat (i : Int) : Nat := BinaryFormat.double.ofDecimal (decide (i < 0)) i.natAbs 0

/-- What a scalar stands for under a tag: the tag it resolves to and its value, or the
message of a text that does not fit its explicit tag. A tag that resolution does not know
keeps the text as it is. -/
def resolve (tag : String) (s : String) : Except String (String × Resolved) :=
  let tag := shortTag tag
  if !resolvable tag then .ok (tag, .text s)
  else
    let (rtag, v) := resolveKnown tag s
    let mismatch : Except String (String × Resolved) :=
      .error ("yaml: cannot decode " ++ rtag ++ " `" ++ s ++ "` as a " ++ tag)
    if tag = "" ∨ tag = rtag ∨ tag = "!!str" then .ok (rtag, v)
    else if tag = "!!float" ∧ rtag = "!!int" then
      match v with
      | .int i => if i < Nat.pow 2 63 then .ok ("!!float", .float (intToFloat i)) else mismatch
      | _ => mismatch
    else mismatch

/-- The tag a plain scalar without an explicit tag resolves to. -/
def plainTag (s : String) : String := (resolveKnown "" s).1

end SoundControl.Yaml
