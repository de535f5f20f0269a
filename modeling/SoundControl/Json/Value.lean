import SoundControl.Text.Utf8
import SoundControl.Text.Quoted

/-! # JSON values

A JSON value keeps each number as the text it was written with. Writing produces the compact or
the indented form. -/

namespace SoundControl

/-- A JSON value. Object members keep their order. -/
inductive Json where
  | null
  | bool (b : Bool)
  /-- A number, as written. -/
  | number (lexeme : String)
  | string (s : String)
  | array (items : List Json)
  | object (members : List (String × Json))

instance : Inhabited Json := ⟨.null⟩

namespace Json

/-- A string value made from bytes; a byte that is not part of well-formed UTF-8 reads as U+FFFD. -/
def ofBytes (bs : Bytes) : Json := .string (Utf8.lossy bs)

/-- A number value from a natural number. -/
def ofNat (n : Nat) : Json := .number (toString n)

/-- A number value from an integer. -/
def ofInt (n : Int) : Json := .number (toString n)

/-- How one character of a string is written. -/
def escapeChar (c : Char) : List Char :=
  if c = '"' then ['\\', '"']
  else if c = '\\' then ['\\', '\\']
  else if c = '\x08' then ['\\', 'b']
  else if c = '\x0c' then ['\\', 'f']
  else if c = '\n' then ['\\', 'n']
  else if c = '\r' then ['\\', 'r']
  else if c = '\t' then ['\\', 't']
  else if c.toNat < 0x20 ∨ c = '<' ∨ c = '>' ∨ c = '&' ∨ c.toNat = 0x2028 ∨ c.toNat = 0x2029 then
    '\\' :: 'u' :: Quoted.hexDigits 4 c.toNat
  else [c]

/-- A string literal. -/
def quote (s : String) : String :=
  String.ofList ('"' :: s.toList.flatMap escapeChar ++ ['"'])

mutual

/-- The compact text of a value. -/
def render : Json → String
  | .null => "null"
  | .bool b => if b then "true" else "false"
  | .number n => n
  | .string s => quote s
  | .array items => "[" ++ ",".intercalate (renderItems items) ++ "]"
  | .object members => "\x7b" ++ ",".intercalate (renderMembers members) ++ "\x7d"

/-- The compact texts of array items. -/
def renderItems : List Json → List String
  | [] => []
  | j :: rest => render j :: renderItems rest

/-- The compact texts of object members. -/
def renderMembers : List (String × Json) → List String
  | [] => []
  | (k, v) :: rest => (quote k ++ ":" ++ render v) :: renderMembers rest

end

/-- A line break followed by `level` indentation steps of two spaces. -/
def newline (level : Nat) : String := "\n" ++ String.ofList (List.replicate (2 * level) ' ')

mutual

/-- The indented text of a value at nesting level `level`. Empty arrays and objects stay on one
line. -/
def pretty (level : Nat) : Json → String
  | .array [] => "[]"
  | .object [] => "\x7b\x7d"
  | .array items =>
    "[" ++ String.join (prettyItems (level + 1) items) ++ newline level ++ "]"
  | .object members =>
    "\x7b" ++ String.join (prettyMembers (level + 1) members) ++ newline level ++ "\x7d"
  | j => render j

/-- The indented texts of array items, each on its own line. -/
def prettyItems (level : Nat) : List Json → List String
  | [] => []
  | [j] => [newline level ++ pretty level j]
  | j :: rest => (newline level ++ pretty level j ++ ",") :: prettyItems level rest

/-- The indented texts of object members, each on its own line. -/
def prettyMembers (level : Nat) : List (String × Json) → List String
  | [] => []
  | [(k, v)] => [newline level ++ quote k ++ ": " ++ pretty level v]
  | (k, v) :: rest => (newline level ++ quote k ++ ": " ++ pretty level v ++ ",") ::
      prettyMembers level rest

end

/-- The member of an object with the given key, the first if there are several. -/
def get? (j : Json) (key : String) : Option Json :=
  match j with
  | .object members => (members.find? (·.1 == key)).map (·.2)
  | _ => none

end Json

end SoundControl
