import SoundControl.Json.Value
import SoundControl.Json.Grammar
import SoundControl.Text.Hex

/-! # Reading JSON

Reading a JSON value from bytes: the syntax check first, then the value itself, with escapes
resolved and numbers kept as their text. -/

namespace SoundControl.JsonReader

/-- Skips blanks. -/
def skipSpace : Bytes → Bytes
  | c :: rest => if JsonGrammar.isSpace c then skipSpace rest else c :: rest
  | [] => []

/-- The value of four hex digits. -/
def hex4 : Bytes → Option Nat
  | a :: b :: c :: d :: _ =>
    match Hex.digit? a, Hex.digit? b, Hex.digit? c, Hex.digit? d with
    | some w, some x, some y, some z => some (((w * 16 + x) * 16 + y) * 16 + z)
    | _, _, _, _ => none
  | _ => none

/-- Whether a code is a UTF-16 surrogate. -/
def isSurrogate (n : Nat) : Bool := 0xD800 ≤ n && n < 0xE000

/-- Reads the body of a string literal after its opening quote, up to and including the closing
quote: the characters read, in reverse order, and the bytes after the literal. The syntax check
has made sure the literal is well formed. -/
def stringBody (acc : List Char) : Bytes → List Char × Bytes
  | [] => (acc, [])
  | 0x22 :: rest => (acc, rest)
  | 0x5C :: e :: rest =>
    if e == 0x75 then
      match hex4 rest with
      | none => stringBody acc rest
      | some n =>
        let after := rest.drop 4
        if isSurrogate n then
          match _h : rest.drop 4 with
          | 0x5C :: 0x75 :: more =>
            match hex4 more with
            | some m =>
              if 0xD800 ≤ n ∧ n < 0xDC00 ∧ 0xDC00 ≤ m ∧ m < 0xE000 then
                let c := 0x10000 + (n - 0xD800) * 0x400 + (m - 0xDC00)
                stringBody (Char.ofNat c :: acc) (more.drop 4)
              else stringBody ('�' :: acc) after
            | none => stringBody ('�' :: acc) after
          | _ => stringBody ('�' :: acc) after
        else stringBody (Char.ofNat n :: acc) after
    else
      let c : Char :=
        if e == 0x62 then '\x08' else if e == 0x66 then '\x0c' else if e == 0x6E then '\n'
        else if e == 0x72 then '\r' else if e == 0x74 then '\t' else Char.ofNat e.toNat
      stringBody (c :: acc) rest
  | c :: rest =>
    if c < 0x80 then stringBody (Char.ofNat c.toNat :: acc) rest
    else
      match Utf8.scalar? (c :: rest) with
      | some (n, w) => stringBody (Char.ofNat n :: acc) (rest.drop (w - 1))
      | none => stringBody ('�' :: acc) rest
termination_by bs => bs.length
decreasing_by
  all_goals simp_wf
  all_goals try
    have hl := congrArg List.length _h
    simp only [List.length_drop, List.length_cons] at hl
  all_goals omega

/-- Reads a string literal after its opening quote. -/
def string (bs : Bytes) : String × Bytes :=
  let (cs, rest) := stringBody [] bs
  (String.ofList cs.reverse, rest)

/-- Whether a byte may continue a number. -/
def isNumberByte (c : UInt8) : Bool :=
  JsonGrammar.isDigit c || c == 0x2E || c == 0x2B || c == 0x2D || c == 0x65 || c == 0x45

mutual

/-- Reads a value from well-formed JSON text. Each call consumes at least one byte, so `fuel` of
the input's length suffices. -/
def value (fuel : Nat) (bs : Bytes) : Json × Bytes :=
  match fuel with
  | 0 => (.null, [])
  | fuel + 1 =>
    match skipSpace bs with
    | 0x7B :: rest => members fuel [] (skipSpace rest)
    | 0x5B :: rest => items fuel [] (skipSpace rest)
    | 0x22 :: rest => let (s, r) := string rest; (.string s, r)
    | 0x74 :: rest => (.bool true, rest.drop 3)
    | 0x66 :: rest => (.bool false, rest.drop 4)
    | 0x6E :: rest => (.null, rest.drop 3)
    | c :: rest =>
      let digits := (c :: rest).takeWhile isNumberByte
      (.number (String.ofList (digits.map fun b => Char.ofNat b.toNat)),
        (c :: rest).drop digits.length)
    | [] => (.null, [])

/-- Reads the items of an array after its opening bracket, `acc` holding those read so far in
reverse order. -/
def items (fuel : Nat) (acc : List Json) (bs : Bytes) : Json × Bytes :=
  match fuel with
  | 0 => (.array acc.reverse, [])
  | fuel + 1 =>
    match bs with
    | 0x5D :: rest => (.array acc.reverse, rest)
    | _ =>
      let (v, rest) := value fuel bs
      match skipSpace rest with
      | 0x2C :: more => items fuel (v :: acc) more
      | 0x5D :: more => (.array (v :: acc).reverse, more)
      | more => (.array (v :: acc).reverse, more)

/-- Reads the members of an object after its opening brace, `acc` holding those read so far in
reverse order. -/
def members (fuel : Nat) (acc : List (String × Json)) (bs : Bytes) : Json × Bytes :=
  match fuel with
  | 0 => (.object acc.reverse, [])
  | fuel + 1 =>
    match skipSpace bs with
    | 0x7D :: rest => (.object acc.reverse, rest)
    | 0x22 :: rest =>
      let (k, afterKey) := string rest
      match skipSpace afterKey with
      | 0x3A :: afterColon =>
        let (v, rest) := value fuel afterColon
        match skipSpace rest with
        | 0x2C :: more => members fuel ((k, v) :: acc) more
        | 0x7D :: more => (.object ((k, v) :: acc).reverse, more)
        | more => (.object ((k, v) :: acc).reverse, more)
      | more => (.object acc.reverse, more)
    | more => (.object acc.reverse, more)

end

/-- Reads one JSON value; the error is the syntax check's. -/
def read (bs : Bytes) : Except String Json := do
  JsonGrammar.check bs
  pure (value (2 * bs.length + 2) bs).1

end SoundControl.JsonReader
