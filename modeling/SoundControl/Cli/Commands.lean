import SoundControl.Cli.Flags
import SoundControl.Text.Case

/-! # The command tree

The tool's commands, the flags each takes, how the words of a command line pick a command, and
the help text of each command. -/

namespace SoundControl.Cli

/-- The shells that completion scripts are made for. -/
def shells : List String := ["bash", "zsh", "fish", "powershell"]

/-- A command of the tool. -/
inductive Command where
  | root
  | decode
  | encode
  | msg
  | version
  | help
  | completion
  | script (shell : String)
  /-- The hidden command that the completion scripts call to ask for completions. -/
  | request
  deriving DecidableEq, Repr

namespace Command

/-- The name of a command. -/
def name : Command → String
  | .root => "osctool"
  | .decode => "decode"
  | .encode => "encode"
  | .msg => "msg"
  | .version => "version"
  | .help => "help"
  | .completion => "completion"
  | .script shell => shell
  | .request => "__complete"

/-- The parent of a command. -/
def parent : Command → Option Command
  | .root => none
  | .script _ => some .completion
  | _ => some .root

/-- The subcommands of a command, in the order they were added. -/
def children : Command → List Command
  | .root => [.decode, .encode, .msg, .version, .help, .completion]
  | .completion => shells.map .script
  | _ => []

/-- The words that invoke a command, from the top. -/
def path : Command → String
  | .script shell => "osctool completion " ++ shell
  | .root => "osctool"
  | c => "osctool " ++ c.name

/-- The usage pattern of a command. -/
def use : Command → String
  | .decode => "decode [file]"
  | .encode => "encode [file]"
  | .msg => "msg ADDRESS [ARG...]"
  | .help => "help [command]"
  | .request => "__complete [command-line]"
  | c => c.name

/-- The one-line description of a command. -/
def short : Command → String
  | .root => "Encode and decode Open Sound Control packets"
  | .decode => "Decode OSC packets"
  | .encode => "Encode a packet description to binary OSC"
  | .msg => "Encode a single OSC message"
  | .version => "Print version information"
  | .help => "Help about any command"
  | .completion => "Generate the autocompletion script for the specified shell"
  | .script shell => "Generate the autocompletion script for " ++ shell
  | .request => "Request shell completion choices for the specified command-line"

/-- The long description of the command that writes the completion script of a shell: how to
load the script. -/
def scriptLong : String → String
  | "bash" =>
    "Generate the autocompletion script for the bash shell.\n\n" ++
    "This script depends on the 'bash-completion' package.\n" ++
    "If it is not installed already, you can install it via your OS's package manager.\n\n" ++
    "To load completions in your current shell session:\n\n" ++
    "\tsource <(osctool completion bash)\n\n" ++
    "To load completions for every new session, execute once:\n\n" ++
    "#### Linux:\n\n" ++
    "\tosctool completion bash > /etc/bash_completion.d/osctool\n\n" ++
    "#### macOS:\n\n" ++
    "\tosctool completion bash > $(brew --prefix)/etc/bash_completion.d/osctool\n\n" ++
    "You will need to start a new shell for this setup to take effect.\n"
  | "zsh" =>
    "Generate the autocompletion script for the zsh shell.\n\n" ++
    "If shell completion is not already enabled in your environment you will need\n" ++
    "to enable it.  You can execute the following once:\n\n" ++
    "\techo \"autoload -U compinit; compinit\" >> ~/.zshrc\n\n" ++
    "To load completions in your current shell session:\n\n" ++
    "\tsource <(osctool completion zsh)\n\n" ++
    "To load completions for every new session, execute once:\n\n" ++
    "#### Linux:\n\n" ++
    "\tosctool completion zsh > \"$\x7bfpath[1]\x7d/_osctool\"\n\n" ++
    "#### macOS:\n\n" ++
    "\tosctool completion zsh > $(brew --prefix)/share/zsh/site-functions/_osctool\n\n" ++
    "You will need to start a new shell for this setup to take effect.\n"
  | "fish" =>
    "Generate the autocompletion script for the fish shell.\n\n" ++
    "To load completions in your current shell session:\n\n" ++
    "\tosctool completion fish | source\n\n" ++
    "To load completions for every new session, execute once:\n\n" ++
    "\tosctool completion fish > ~/.config/fish/completions/osctool.fish\n\n" ++
    "You will need to start a new shell for this setup to take effect.\n"
  | "powershell" =>
    "Generate the autocompletion script for powershell.\n\n" ++
    "To load completions in your current shell session:\n\n" ++
    "\tosctool completion powershell | Out-String | Invoke-Expression\n\n" ++
    "To load completions for every new session, add the output of the above command\n" ++
    "to your powershell profile.\n"
  | _ => ""

/-- The long description of a command, or nothing. -/
def long : Command → String
  | .root =>
    "osctool converts between the OSC 1.0 binary format and a readable\n" ++
    "packet description.\n\n" ++
    "Arguments are written as <tag>:<value>, for example i:3, f:0.5, s:hello or\n" ++
    "b:deadbeef (hex blob).\n\n" ++
    "Settings can also come from a YAML file (--config) or OSCTOOL_* environment\n" ++
    "variables, e.g. OSCTOOL_MAX_DEPTH=8."
  | .decode =>
    "Decode a binary OSC packet read from a file or stdin and print it.\n\n" ++
    "With --stream the input is a sequence of packets, each preceded by its size\n" ++
    "as a 32-bit big-endian integer."
  | .encode =>
    "Encode a packet description (YAML, JSON or CBOR) read from a file or\n" ++
    "stdin. The format is taken from --input or the file extension, YAML otherwise.\n\n" ++
    "Example document:\n\n" ++
    "  bundle:\n" ++
    "    timetag: 1\n" ++
    "    elements:\n" ++
    "      - message:\n" ++
    "          address: /vol\n" ++
    "          args: [\"i:3\"]"
  | .help =>
    "Help provides help for any command in the application.\n" ++
    "Simply type osctool help [path to command] for full details."
  | .completion =>
    "Generate the autocompletion script for osctool for the specified shell.\n" ++
    "See each sub-command" ++ String.ofList [Char.ofNat 39] ++
    "s help for details on how to use the generated script."
  | .script shell => scriptLong shell
  | .request =>
    "__complete is a special command that is used by the shell completion logic\n" ++
    "to request completion choices for the specified command-line."
  | _ => ""

/-- The examples of a command, or nothing. -/
def examples : Command → String
  | .decode =>
    "  osctool decode packet.bin\n" ++
    "  printf " ++ String.ofList [Char.ofNat 39] ++ "2f766f6c000000002c69000000000003" ++
    String.ofList [Char.ofNat 39] ++ " | osctool decode --hex -o yaml"
  | .msg =>
    "  osctool msg /vol i:3 --hex\n" ++
    "  osctool msg /synth/1 s:saw f:440 b:01ff > note.bin"
  | _ => ""

/-- Whether a command does something itself. -/
def runnable : Command → Bool
  | .root | .completion => false
  | _ => true

/-- The flags every command inherits from the top. -/
def persistentFlags : List FlagSpec :=
  [ { name := "config", kind := .text, usage := "Path to a YAML configuration file", default := "" },
    { name := "max-depth", kind := .int, usage := "Maximum bundle nesting depth",
      default := "32" },
    { name := "max-packet-size", kind := .int, usage := "Maximum size of a size-prefixed packet",
      default := "1048576" },
    { name := "log-level", kind := .text, usage := "Log level (DEBUG|INFO|WARN|ERROR)",
      default := "INFO" },
    { name := "log-format", kind := .text, usage := "Log format (text|json)", default := "text" } ]

/-- A switch. -/
def switch (name usage : String) : FlagSpec :=
  { name := name, kind := .bool, usage := usage, default := "false" }

/-- The flags a command defines itself, without the help switch. -/
def ownFlags : Command → List FlagSpec
  | .root => persistentFlags
  | .decode =>
    [ { name := "output", shorthand := some 'o', kind := .text,
        usage := "Output format (text|json|yaml|cbor)", default := "text" },
      switch "hex" "Input is hex encoded",
      switch "stream" "Input is a sequence of size-prefixed packets" ]
  | .encode =>
    [ { name := "input", shorthand := some 'i', kind := .text,
        usage := "Input format (yaml|json|cbor)", default := "" },
      switch "hex" "Write hex instead of raw bytes",
      switch "stream" "Prefix the packet with its size" ]
  | .msg =>
    [switch "hex" "Write hex instead of raw bytes", switch "stream" "Prefix the packet with its size"]
  | .script _ => [switch "no-descriptions" "disable completion descriptions"]
  | _ => []

/-- The flags a command inherits. -/
def inheritedFlags : Command → List FlagSpec
  | .root => []
  | _ => persistentFlags

/-- The help switch of a command. -/
def helpFlag (c : Command) : FlagSpec :=
  { name := "help", shorthand := some 'h', kind := .bool, usage := "help for " ++ c.name,
    default := "false" }

/-- The flags a command knows while the command line is walked. -/
def walkFlags (c : Command) : List FlagSpec := c.ownFlags ++ c.inheritedFlags

/-- The flags a command reads when it runs. -/
def runFlags (c : Command) : List FlagSpec := c.ownFlags ++ c.inheritedFlags ++ [c.helpFlag]

/-- Whether a command is listed among the subcommands of its parent. -/
def listed (c : Command) : Bool := c ≠ .help

end Command

/-! ## Walking the command line -/

/-- Whether a flag word names a known switch, which takes no value. -/
def isSwitch (flags : List FlagSpec) (name : String) : Bool :=
  match findLong flags name with
  | some f => f.kind = .bool
  | none => false

/-- Whether a one-letter flag word names a known switch. -/
def isShortSwitch (flags : List FlagSpec) (rest : List Char) : Bool :=
  match rest with
  | c :: _ =>
    match findShort flags c with
    | some f => f.kind = .bool
    | none => false
  | [] => false

/-- Whether a word is a flag that takes the next word as its value: a long flag without `=`
that is no known switch, or a dash and one ASCII character other than `=` that is not the
shorthand of a known switch. A dash and a character of several bytes is not taken for a flag
with a value. -/
def takesValue (flags : List FlagSpec) (s : String) : Bool :=
  match s.toList with
  | '-' :: '-' :: name => !name.contains '=' && !isSwitch flags (String.ofList name)
  | ['-', c] => c ≠ '=' && c.toNat < 128 && !isShortSwitch flags [c]
  | _ => false

/-- The words that are neither flags nor flag values, up to `--`. -/
def commandWords (flags : List FlagSpec) : List String → List String
  | [] => []
  | s :: rest =>
    if s = "--" then []
    else if takesValue flags s then
      match rest with
      | _ :: more => commandWords flags more
      | [] => []
    else if s ≠ "" ∧ s.toList.head? ≠ some '-' then s :: commandWords flags rest
    else commandWords flags rest

/-- The words without the first one equal to `x` that is neither a flag nor a flag value. -/
def withoutWord (flags : List FlagSpec) (x : String) : List String → List String
  | [] => []
  | s :: rest =>
    if s = "--" then s :: rest
    else if takesValue flags s then
      match rest with
      | v :: more => s :: v :: withoutWord flags x more
      | [] => [s]
    else if s.toList.head? ≠ some '-' ∧ s = x then rest
    else s :: withoutWord flags x rest

/-- The names of the request command: one for completions with descriptions, one without. -/
def requestNames : List String := ["__complete", "__completeNoDesc"]

/-- The subcommand a word names; at the top, when the request command is there, also the request
command by either of its names. -/
def Command.named (withRequest : Bool) (c : Command) (word : String) : Option Command :=
  match c.children.find? (·.name = word) with
  | some sub => some sub
  | none => if withRequest && c = .root && requestNames.contains word then some .request else none

/-- Walks the words down the command tree from a command: the command reached and the words
left for it. The request command is there only when `withRequest` holds. -/
def walk (withRequest : Bool) : Nat → Command → List String → Command × List String
  | 0, c, words => (c, words)
  | fuel + 1, c, words =>
    match commandWords c.walkFlags words with
    | [] => (c, words)
    | next :: _ =>
      match c.named withRequest next with
      | some sub => walk withRequest fuel sub (withoutWord c.walkFlags next words)
      | none => (c, words)

/-! ## Suggestions -/

/-- The next row of the edit distance table for the byte `a` of the first string: the bytes of
the second string, the previous row from the current column on, and the value to the left. -/
def editRow (a : UInt8) : Bytes → List Nat → Nat → List Nat
  | b :: bs, d :: u :: ps, left =>
    let v := if a = b then d else min (min u left) d + 1
    v :: editRow a bs (u :: ps) v
  | _, _, _ => []

/-- The edit distance of two byte strings. -/
def editDistance (s t : Bytes) : Nat :=
  let last := s.zipIdx.foldl (fun prev (a, i) => (i + 1) :: editRow a t prev (i + 1))
    (List.range (t.length + 1))
  last.getLastD 0

/-- A text in lower case, as bytes. -/
def lowerBytes (s : String) : Bytes := Utf8.ofString (Case.lower s)

/-- The subcommands suggested for a word that names none. -/
def suggestions (c : Command) (typed : String) : List String :=
  (c.children.filter Command.listed).filterMap fun sub =>
    let near := editDistance (lowerBytes typed) (lowerBytes sub.name) ≤ 2
    let start := (lowerBytes typed).isPrefixOf (lowerBytes sub.name)
    if near ∨ start then some sub.name else none

/-- The error of a word at the top that names no command. -/
def unknownCommand (c : Command) (typed : String) : Failure :=
  let found := suggestions c typed
  let hint := if found.isEmpty then ""
    else "\n\nDid you mean this?\n" ++ String.join (found.map fun s => "\t" ++ s ++ "\n")
  Failure.plain ("unknown command " ++ Quoted.quoteString typed ++ " for " ++
    Quoted.quoteString c.path ++ hint)

/-- Finds the command that the words invoke, and the words left for it. -/
def find (withRequest : Bool) (words : List String) : Except Failure (Command × List String) :=
  let (c, rest) := walk withRequest 4 .root words
  if c = .root then
    match commandWords c.walkFlags rest with
    | typed :: _ => .error (unknownCommand c typed)
    | [] => .ok (c, rest)
  else .ok (c, rest)

/-! ## Help -/

/-- A text without white space at its end. -/
def trimEnd (s : String) : String :=
  String.ofList (s.toList.reverse.dropWhile Char.isWhitespace).reverse

/-- The usage line of a command. -/
def Command.useLine (c : Command) : String :=
  let line := match c.parent with
    | some p => p.path ++ " " ++ c.use
    | none => c.use
  line ++ " [flags]"

/-- The usage text of a command; `withHelp` says whether its help switch is listed. -/
def Command.usage (c : Command) (withHelp : Bool) : String :=
  let subs := c.children.mergeSort fun a b => decide (a.name ≤ b.name)
  let hasSubs := !c.children.isEmpty
  let local_ := c.ownFlags ++ (if withHelp then [c.helpFlag] else [])
  let width := (c.children.map fun s => s.name.length).foldl max 0
  let pad := max 11 width
  "Usage:" ++
  (if c.runnable then "\n  " ++ c.useLine else "") ++
  (if hasSubs then "\n  " ++ c.path ++ " [command]" else "") ++
  (if c.examples.isEmpty then "" else "\n\nExamples:\n" ++ c.examples) ++
  (if hasSubs then
    "\n\nAvailable Commands:" ++ String.join (subs.map fun s =>
      "\n  " ++ s.name ++ String.ofList (List.replicate (pad - s.name.length) ' ') ++ " " ++
        s.short)
   else "") ++
  (if local_.isEmpty then "" else "\n\nFlags:\n" ++ trimEnd (flagUsages local_)) ++
  (if c.inheritedFlags.isEmpty then ""
   else "\n\nGlobal Flags:\n" ++ trimEnd (flagUsages c.inheritedFlags)) ++
  (if hasSubs then
    "\n\nUse \"" ++ c.path ++ " [command] --help\" for more information about a command."
   else "") ++
  "\n"

/-- The help text of a command. -/
def Command.helpText (c : Command) : String :=
  let about := if c.long.isEmpty then c.short else c.long
  (if about.isEmpty then "" else trimEnd about ++ "\n\n") ++ c.usage true

end SoundControl.Cli
