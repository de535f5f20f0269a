import SoundControl.Failure

/-! # Command-line flags

Flags as the command line gives them, long (`--name=value`) or one-letter (`-abc`), read until
`--` or the first bad word, and the usage text that lists them. -/

namespace SoundControl.Cli

/-- The kind of value a flag takes. -/
inductive FlagKind where
  | text
  | int
  | bool
  deriving DecidableEq, Repr

/-- A flag: its name, its one-letter form, its kind, its description and the text of its
default. -/
structure FlagSpec where
  name : String
  shorthand : Option Char := none
  kind : FlagKind
  usage : String
  default : String
  deriving Repr

/-- A flag set on the command line, by name, with the text of its value. -/
abbrev Setting := String × String

namespace FlagSpec

/-- The names of a flag as error messages show them. -/
def shownName (f : FlagSpec) : String :=
  match f.shorthand with
  | some c => "-" ++ String.ofList [c] ++ ", --" ++ f.name
  | none => "--" ++ f.name

/-- Reads a switch. -/
def readBool (s : String) : Option Bool :=
  if ["1", "t", "T", "TRUE", "true", "True"].contains s then some true
  else if ["0", "f", "F", "FALSE", "false", "False"].contains s then some false
  else none

/-- The failure of a value the flag cannot take. -/
def invalid (f : FlagSpec) (value : String) (e : NumError) : Failure :=
  let cause : Cause := match e.kind with
    | .malformed => .numberMalformed
    | .outOfRange => .numberOutOfRange
  ⟨cause, "invalid argument " ++ Quoted.quoteString value ++ " for " ++
    Quoted.quoteString f.shownName ++ " flag: " ++ e.message, none⟩

/-- The text of a value the flag takes, as it is kept. -/
def read (f : FlagSpec) (value : String) : Except Failure String :=
  match f.kind with
  | .text => .ok value
  | .int =>
    match Literal.integer 64 (Utf8.ofString value) with
    | .ok i => .ok (toString i)
    | .error e => .error (f.invalid value e)
  | .bool =>
    match readBool value with
    | some b => .ok (if b then "true" else "false")
    | none => .error (f.invalid value ⟨"ParseBool", Utf8.ofString value, .malformed⟩)

/-- Whether the default is the zero value of the kind. -/
def defaultIsZero (f : FlagSpec) : Bool :=
  match f.kind with
  | .text => f.default.isEmpty
  | .int => f.default = "0"
  | .bool => f.default = "false"

/-- The left column of a flag's usage line: its names and value kind. -/
def usageNames (f : FlagSpec) : String :=
  let names := match f.shorthand with
    | some c => "  -" ++ String.ofList [c] ++ ", --" ++ f.name
    | none => "      --" ++ f.name
  names ++ match f.kind with
    | .text => " string"
    | .int => " int"
    | .bool => ""

/-- The right column of a flag's usage line: its description and default. -/
def usageText (f : FlagSpec) : String :=
  if f.defaultIsZero then f.usage
  else if f.kind = .text then f.usage ++ " (default " ++ Quoted.quoteString f.default ++ ")"
  else f.usage ++ " (default " ++ f.default ++ ")"

end FlagSpec

/-- The usage lines of flags, sorted by name. -/
def flagUsages (flags : List FlagSpec) : String :=
  let sorted := flags.mergeSort fun a b => decide (a.name ≤ b.name)
  let width := (sorted.map fun f => f.usageNames.length + 1).foldl max 0
  String.join (sorted.map fun f =>
    f.usageNames ++ " " ++ String.ofList (List.replicate (width - f.usageNames.length) ' ') ++
      " " ++ f.usageText ++ "\n")

/-- The value of the flag last set under a name. -/
def lookupSetting (set : List Setting) (name : String) : Option String :=
  (set.reverse.find? (·.1 = name)).map (·.2)

/-- The flag of a name. -/
def findLong (flags : List FlagSpec) (name : String) : Option FlagSpec :=
  flags.find? (·.name = name)

/-- The flag of a one-letter form. -/
def findShort (flags : List FlagSpec) (c : Char) : Option FlagSpec :=
  flags.find? (·.shorthand = some c)

/-- Sets a flag to a value. -/
def setFlag (f : FlagSpec) (value : String) (set : List Setting) : Except Failure (List Setting) :=
  (f.read value).map fun v => set ++ [(f.name, v)]

/-- The character an unknown shorthand byte is named by in messages: the byte is made into a
character and that character's first UTF-8 byte is shown, so a byte from `0x80` on is named by
`0xC2` or `0xC3`. -/
def shorthandShown (b : UInt8) : Nat :=
  if b.toNat < 0x80 then b.toNat else if b.toNat < 0xC0 then 0xC2 else 0xC3

/-- Reads the one-letter flags of a word, given as its bytes after the dash: the settings and
the words after it that are left. -/
def shortFlags (flags : List FlagSpec) :
    Bytes → List String → List Setting → Except Failure (List String × List Setting)
  | [], args, set => .ok (args, set)
  | c :: rest, args, set =>
    if (c :: rest).take 5 = Utf8.ofString "test." then .ok (args, set)
    else
      let shown := "-" ++ Utf8.lossy (c :: rest)
      match findShort flags (Char.ofNat c.toNat) with
      | none =>
        .error (Failure.plain ("unknown shorthand flag: " ++ Quoted.quoteCode (shorthandShown c) ++
          " in " ++ shown))
      | some f =>
        match rest with
        | 0x3D :: v :: vs =>
          (setFlag f (Utf8.lossy (v :: vs)) set).map fun set => (args, set)
        | _ =>
          if f.kind = .bool then
            match setFlag f "true" set with
            | .ok set => shortFlags flags rest args set
            | .error e => .error e
          else if !rest.isEmpty then (setFlag f (Utf8.lossy rest) set).map fun set => (args, set)
          else
            match args with
            | a :: more => (setFlag f a set).map fun set => (more, set)
            | [] =>
              .error (Failure.plain ("flag needs an argument: " ++ Quoted.quoteCode c.toNat ++
                " in " ++ shown))

/-- Reads the flags of the words: the settings in the order given and the arguments. -/
def parseFlags (flags : List FlagSpec) :
    Nat → List String → List Setting → List String → Except Failure (List Setting × List String)
  | 0, _, set, args => .ok (set, args)
  | _ + 1, [], set, args => .ok (set, args)
  | fuel + 1, s :: rest, set, args =>
    match s.toList with
    | ['-', '-'] => .ok (set, args ++ rest)
    | '-' :: '-' :: name =>
      if name.head? = some '-' ∨ name.head? = some '=' then
        .error (Failure.plain ("bad flag syntax: " ++ s))
      else
        let key := String.ofList (name.takeWhile (· ≠ '='))
        let value? : Option String :=
          if name.contains '=' then some (String.ofList ((name.dropWhile (· ≠ '=')).drop 1))
          else none
        match findLong flags key with
        | none => .error (Failure.plain ("unknown flag: --" ++ key))
        | some f =>
          match value?, f.kind, rest with
          | some v, _, _ => (setFlag f v set).bind fun set => parseFlags flags fuel rest set args
          | none, .bool, _ => (setFlag f "true" set).bind fun set => parseFlags flags fuel rest set args
          | none, _, v :: more =>
            (setFlag f v set).bind fun set => parseFlags flags fuel more set args
          | none, _, [] => .error (Failure.plain ("flag needs an argument: " ++ s))
    | '-' :: c :: more =>
      match shortFlags flags (Utf8.ofString (String.ofList (c :: more))) rest set with
      | .ok (rest, set) => parseFlags flags fuel rest set args
      | .error e => .error e
    | _ => parseFlags flags fuel rest set (args ++ [s])

/-- Reads the flags of the words: the settings in the order given and the arguments. -/
def parse (flags : List FlagSpec) (words : List String) :
    Except Failure (List Setting × List String) :=
  parseFlags flags (words.length + 1) words [] []

end SoundControl.Cli
