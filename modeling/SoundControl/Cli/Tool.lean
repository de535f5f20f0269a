import SoundControl.Cli.Commands
import SoundControl.Cli.Complete
import SoundControl.Cli.Scripts
import SoundControl.Document.Format
import SoundControl.Settings
import SoundControl.Stream

/-! # Running the tool

A run of the tool on the words of a command line and the bytes of standard input: the command is
picked, its flags and settings are read, and it runs, or a completion request is answered. A
failure stops the run, and what was written before it stays written. -/

namespace SoundControl.Cli

/-- What a run of the tool gives: what it wrote to standard output, and how it failed. -/
structure Outcome where
  stdout : Bytes := []
  failure : Option Failure := none

/-- A run that failed before it wrote anything. -/
def Outcome.failed (f : Failure) : Outcome := { failure := some f }

/-- A run that wrote text and succeeded. -/
def Outcome.text (s : String) : Outcome := { stdout := Utf8.ofString s }

/-- The version line. -/
def versionLine : String := "osctool dev (commit none, built unknown)\n"

/-! ## Settings -/

/-- The configuration file types that can be read. -/
def configTypes : List String :=
  ["json", "toml", "yaml", "yml", "properties", "props", "prop", "hcl", "tfvars", "dotenv", "env",
    "ini"]

/-- The type of a configuration file: its extension without the point. -/
def configType (path : String) : String :=
  let cs := path.toList.reverse.takeWhile (· ≠ '/')
  if cs.contains '.' then String.ofList (cs.takeWhile (· ≠ '.')).reverse else ""

/-- An integer setting: the flag's value, or the default. -/
def intSetting (set : List Setting) (name : String) (default : Int) : Int :=
  match lookupSetting set name with
  | some v => v.toInt?.getD default
  | none => default

/-- Loads the settings from the flags set over the defaults, after the configuration file, and
validates them. Only configuration files that do not exist can be named: one of an unknown
type is refused, a name with a NUL byte cannot be opened, and any other is missing. -/
def loadSettings (set : List Setting) : Except Failure Settings := do
  let config := (lookupSetting set "config").getD ""
  if !config.isEmpty then
    let kind := configType config
    if !configTypes.contains kind then
      throw (Failure.plain ("failed to read config file: Unsupported Config Type " ++
        Quoted.quoteString kind))
    else if config.contains (Char.ofNat 0) then
      throw (Failure.plain ("failed to read config file: open " ++ config ++ ": invalid argument"))
    else throw (Failure.plain ("configuration file not found: " ++ config))
  let s : Settings :=
    { maxDepth := intSetting set "max-depth" 32
      maxPacketSize := intSetting set "max-packet-size" 1048576
      output := (lookupSetting set "output").getD "text"
      logLevel := (lookupSetting set "log-level").getD "INFO"
      logFormat := (lookupSetting set "log-format").getD "text" }
  match s.validate with
  | .ok () => pure s
  | .error msg => throw (Failure.plain ("configuration validation failed: " ++ msg))

/-! ## Commands -/

/-- Checks the number of arguments of a command. -/
def checkArgs (c : Command) (args : List String) : Option Failure :=
  match c with
  | .decode | .encode =>
    if args.length > 1 then
      some (Failure.plain ("accepts at most 1 arg(s), received " ++ toString args.length))
    else none
  | .msg | .request =>
    if args.isEmpty then some (Failure.plain "requires at least 1 arg(s), only received 0")
    else none
  | .version | .completion | .script _ =>
    match args with
    | a :: _ =>
      some (Failure.plain ("unknown command " ++ Quoted.quoteString a ++ " for " ++
        Quoted.quoteString c.path))
    | [] => none
  | .root | .help => none

/-- Whether a switch is on. -/
def switchOn (set : List Setting) (name : String) : Bool := lookupSetting set name = some "true"

/-- Whether a path names a directory that is always there: the current one, its parent or the
root, however written (`.`, `./`, `..`, `/`). -/
def isDirectoryPath (path : String) : Bool :=
  !path.isEmpty && (path.splitOn "/").all fun part => part = "" || part = "." || part = ".."

/-- The input of a command: standard input when no file or `-` is named. No file can be read:
a name with a NUL byte is refused when opened, a directory when read, and any other name is
missing. -/
def readInput (args : List String) (stdin : Bytes) : Except Failure Bytes :=
  match args with
  | [] | ["-"] => .ok stdin
  | path :: _ =>
    if path.contains (Char.ofNat 0) then
      .error (Failure.plain ("open " ++ path ++ ": invalid argument"))
    else if isDirectoryPath path then
      .error (Failure.plain ("read " ++ path ++ ": is a directory"))
    else .error (Failure.plain ("open " ++ path ++ ": no such file or directory"))

/-- Output bytes, or their hex text and a line break. -/
def output (bs : Bytes) (asHex : Bool) : Bytes :=
  if asHex then Utf8.ofString (Hex.encode bs) ++ [0x0A] else bs

/-- Encodes a packet, framed with its size when `stream` holds. -/
def encodePacket (c : Codec) (p : Packet) (stream : Bool) : Except Failure Bytes :=
  (if stream then c.frame p else c.encode p).mapError Failure.ofError

/-- Writes packets in a format, one after the other; YAML documents of more than one packet
are each preceded by `---`. -/
def renderPackets (format : String) (many : Bool) : List Packet → Bytes → Outcome
  | [], out => { stdout := out }
  | p :: rest, out =>
    if format = "text" then
      match p.text with
      | .error f => { stdout := out, failure := some f }
      | .ok bs => renderPackets format many rest (out ++ bs)
    else
      match (Node.ofPacket p).bind (Node.writeDocument format) with
      | .error f => { stdout := out, failure := some f }
      | .ok bs =>
        let bs := if format = "yaml" ∧ many then Utf8.ofString "---\n" ++ bs else bs
        renderPackets format many rest (out ++ bs)

/-- Runs `decode`. -/
def decodeCommand (s : Settings) (set : List Setting) (args : List String) (stdin : Bytes) :
    Outcome :=
  let packets : Except Failure (List Packet) := do
    let data ← readInput args stdin
    let data ← if switchOn set "hex" then
        (Hex.decodeSpaced data).mapError fun e => (Failure.ofHexError e).wrap "invalid hex input: "
      else pure data
    let codec := s.codec
    if switchOn set "stream" then
      match codec.readAll data with
      | (ps, .finished, _) => pure ps
      | (ps, .failed e, _) =>
        throw ((Failure.ofError e).wrap ("packet " ++ toString ps.length ++ ": "))
    else (codec.decode data).map ([·]) |>.mapError Failure.ofError
  match packets with
  | .error f => .failed f
  | .ok ps => renderPackets s.output (ps.length > 1) ps []

/-- Runs `encode`. -/
def encodeCommand (s : Settings) (set : List Setting) (args : List String) (stdin : Bytes) :
    Outcome :=
  let out : Except Failure Bytes := do
    let data ← readInput args stdin
    let given := (lookupSetting set "input").getD ""
    let format := if given.isEmpty then "yaml" else given
    let n ← Node.readDocument format data
    let p ← n.toPacket
    encodePacket s.codec p (switchOn set "stream")
  match out with
  | .error f => .failed f
  | .ok bs => { stdout := output bs (switchOn set "hex") }

/-- Runs `msg`. -/
def msgCommand (s : Settings) (set : List Setting) (args : List String) : Outcome :=
  let m : MessageNode := ⟨Utf8.ofString (args.headD ""), args.tail.map Utf8.ofString⟩
  let n := Node.mk (some m) none
  match n.toPacket.bind fun p => encodePacket s.codec p (switchOn set "stream") with
  | .error f => .failed f
  | .ok bs => { stdout := output bs (switchOn set "hex") }

/-- A list of texts as a list of raw-quoted texts, the way help topics are shown. -/
def topicList (words : List String) : String :=
  let tick := String.ofList [Char.ofNat 96]
  let rawQuotable (w : String) : Bool :=
    w.toList.all fun c => (c.toNat ≥ 0x20 ∨ c = '\t') ∧ c.toNat ≠ 0x60 ∧ c.toNat ≠ 0x7F ∧
      c.toNat ≠ 0xFEFF
  "[" ++ " ".intercalate (words.map fun w =>
    if rawQuotable w then tick ++ w ++ tick else Quoted.quoteString w) ++ "]"

/-- Runs `help`: the help of the command the words name. -/
def helpCommand (args : List String) : Outcome :=
  match find false args with
  | .ok (c, _) => .text c.helpText
  | .error _ => .text ("Unknown help topic " ++ topicList args ++ "\n" ++ Command.root.usage false)

/-- Runs a command once its arguments are checked and the settings loaded. -/
def execute (c : Command) (s : Settings) (set : List Setting) (args : List String)
    (stdin : Bytes) : Outcome :=
  match c with
  | .decode => decodeCommand s set args stdin
  | .encode => encodeCommand s set args stdin
  | .msg => msgCommand s set args
  | .version => .text versionLine
  | .help => helpCommand args
  | .script shell => .text (completionScript shell !(switchOn set "no-descriptions"))
  | _ => {}

/-- The completion request that the words make when their first command word names the request
command: whether descriptions are wanted, and the other words, which are not read for flags. -/
def completionRequest? (words : List String) : Option (Bool × List String) :=
  match commandWords Command.root.walkFlags words with
  | w :: _ =>
    if requestNames.contains w then
      some (w = "__complete", withoutWord Command.root.walkFlags w words)
    else none
  | [] => none

/-- Answers a completion request: at least one word is needed, the default settings are loaded,
and the completions of the last word are written. -/
def answerRequest (descriptions : Bool) (args : List String) : Outcome :=
  if args.isEmpty then .failed (Failure.plain "requires at least 1 arg(s), only received 0")
  else
    match loadSettings [] with
    | .error f => .failed f
    | .ok _ => .text (completionText descriptions (completions args))

/-- Runs the command that the words name. -/
def runCommand (words : List String) (stdin : Bytes) : Outcome :=
  match find false words with
  | .error f => .failed f
  | .ok (c, rest) =>
    match parse c.runFlags rest with
    | .error f => .failed f
    | .ok (set, args) =>
      if switchOn set "help" ∨ !c.runnable then .text c.helpText
      else
        match checkArgs c args with
        | some f => .failed f
        | none =>
          match loadSettings set with
          | .error f => .failed f
          | .ok s => execute c s set args stdin

/-- Runs the tool on the words of a command line and standard input. -/
def run (words : List String) (stdin : Bytes) : Outcome :=
  match completionRequest? words with
  | some (descriptions, args) => answerRequest descriptions args
  | none => runCommand words stdin

/-- Whether a run on these words reads standard input. -/
def readsInput (words : List String) : Bool :=
  match find false words with
  | .ok (.decode, _) | .ok (.encode, _) => true
  | _ => false

end SoundControl.Cli
