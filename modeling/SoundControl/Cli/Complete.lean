import SoundControl.Cli.Commands

/-! # Completion requests

What the hidden request command answers when a completion script asks it to complete the last
word of a command line: flag names, flag values, or subcommand names with their descriptions,
and a directive that tells the shell whether it may fall back to file names. -/

namespace SoundControl.Cli

/-- The directive that asks nothing of the shell; it may fall back to file names. -/
def directiveDefault : Nat := 0

/-- The directive bit that keeps the shell from adding a space after the completion. -/
def directiveNoSpace : Nat := 2

/-- The directive bit that keeps the shell from completing file names. -/
def directiveNoFiles : Nat := 4

/-- The completions of a word and the directive that goes with them. -/
structure Completions where
  items : List String := []
  directive : Nat := directiveDefault

/-- Whether a word has the shape of a flag with its name: `--` and at least one more character,
or `-` and a character other than `-`. -/
def isFlagWord (s : String) : Bool :=
  match s.toList with
  | '-' :: '-' :: _ :: _ => true
  | '-' :: c :: _ => c ≠ '-'
  | _ => false

/-- The flag a command knows by a name; a name of one letter is a shorthand. -/
def lookupFlag (c : Command) (name : String) : Option FlagSpec :=
  match name.toList with
  | [ch] => findShort c.runFlags ch
  | _ => findLong c.runFlags name

/-- The name a flag word gives: what follows `--`, or the last letter after a single `-`. -/
def flagWordName (cs : List Char) : String :=
  if cs.take 2 = ['-', '-'] then String.ofList (cs.drop 2) else String.ofList [cs.getLastD '-']

/-- The word being completed, seen against the flags of its command. -/
structure FlagContext where
  /-- The flag whose value the word is, if it is one. -/
  flag : Option FlagSpec
  /-- The words before it, without the name of that flag. -/
  args : List String
  /-- The word, without the `--name=` in front of a value. -/
  word : String
  /-- Whether a flag is named that the command does not know. -/
  unknownFlag : Bool

/-- Finds the flag whose value the last word is. The request command reads no flags of its own,
so nothing is a flag's value there. -/
def flagContext (c : Command) (args : List String) (last : String) : FlagContext :=
  let plain : FlagContext := ⟨none, args, last, false⟩
  if c = .request || (last.startsWith "-" && !last.contains '=') then plain
  else
    let (named, word, withEqual) : String × String × Bool :=
      if last.startsWith "-" then
        (flagWordName (last.toList.takeWhile (· ≠ '=')),
          String.ofList ((last.toList.dropWhile (· ≠ '=')).drop 1), true)
      else ("", last, false)
    let (named, trimmed) : String × List String :=
      if !named.isEmpty then (named, args)
      else
        match args.getLast? with
        | some prev =>
          if isFlagWord prev && !prev.contains '=' then (flagWordName prev.toList, args.dropLast)
          else ("", args)
        | none => ("", args)
    if named.isEmpty then ⟨none, trimmed, word, false⟩
    else
      match lookupFlag c named with
      | none => ⟨none, args, last, true⟩
      | some f =>
        if !withEqual && f.kind = .bool then ⟨none, args, word, false⟩
        else ⟨some f, trimmed, word, false⟩

/-- The subcommands of a command whose name starts with a word, by name, each with its
description after a tab. -/
def subcommandItems (c : Command) (word : String) : List String :=
  let sorted := c.children.mergeSort fun a b => decide (a.name ≤ b.name)
  (sorted.filter fun s => word.isPrefixOf s.name).map fun s => s.name ++ "\t" ++ s.short

/-- The names of a flag that start with a word, the long one first, each with its description
after a tab. -/
def flagNameItems (f : FlagSpec) (word : String) : List String :=
  let long := "--" ++ f.name
  (if word.isPrefixOf long then [long ++ "\t" ++ f.usage] else []) ++
    match f.shorthand with
    | some ch =>
      let short := "-" ++ String.ofList [ch]
      if word.isPrefixOf short then [short ++ "\t" ++ f.usage] else []
    | none => []

/-- What `help` completes: the subcommands of the command its arguments name. -/
def helpItems (args : List String) (word : String) : List String :=
  match find true args with
  | .ok (c, _) => subcommandItems c word
  | .error _ => []

/-- The completions of the last word of a command line, given the words before it. -/
def completions (words : List String) : Completions :=
  let last := words.getLastD ""
  match find true words.dropLast with
  | .error _ => {}
  | .ok (c, found) =>
    let ctx := flagContext c found last
    let parsing := c ≠ .request
    let parsed : Except Failure (List Setting × List String × Bool) :=
      if !parsing then .ok ([], ctx.args, true)
      else
        match parse c.runFlags ctx.args with
        | .error e => .error e
        | .ok (set, rest) =>
          let ended := match parse c.runFlags (ctx.args ++ ["--"]) with
            | .ok (_, more) => more.length > rest.length
            | .error _ => false
          .ok (set, rest, !ended)
    match parsed with
    | .error _ => {}
    | .ok (set, rest, flagCompletion) =>
      let changed (f : FlagSpec) : Bool := set.any (·.1 = f.name)
      if ctx.unknownFlag && flagCompletion then {}
      else if set.any (·.1 = "help") then { directive := directiveNoFiles }
      else if ctx.flag.isNone && ctx.word.startsWith "-" && !ctx.word.contains '=' &&
          flagCompletion then
        let byName (a b : FlagSpec) : Bool := decide (a.name ≤ b.name)
        let flags := c.inheritedFlags.mergeSort byName ++
          (c.ownFlags ++ [c.helpFlag]).mergeSort byName
        let items := flags.flatMap fun f => if changed f then [] else flagNameItems f ctx.word
        let directive := match items with
          | [only] => if only.endsWith "=" then directiveNoSpace else directiveNoFiles
          | _ => directiveNoFiles
        { items := items, directive := directive }
      else
        let args := if parsing then rest else ctx.args
        let listed : Completions :=
          if ctx.flag.isNone && args.isEmpty && !(c ≠ .root && c.ownFlags.any changed) &&
              !c.children.isEmpty then
            { items := subcommandItems c ctx.word, directive := directiveNoFiles }
          else {}
        if ctx.flag.isSome && flagCompletion then listed
        else
          match c with
          | .completion | .script _ => { listed with directive := directiveNoFiles }
          | .help =>
            { items := listed.items ++ helpItems args ctx.word, directive := directiveNoFiles }
          | _ => listed

/-- The answer of the request command: each completion on its own line, cut at its first line
break and trimmed, without its description when descriptions are off; then the directive after
a colon. -/
def completionText (descriptions : Bool) (cs : Completions) : String :=
  let trim (t : String) : String :=
    let cs := (t.toList.dropWhile Char.isWhitespace).reverse
    String.ofList (cs.dropWhile Char.isWhitespace).reverse
  String.join (cs.items.map fun item =>
    let item := if descriptions then item else (item.splitOn "\t").headD ""
    trim ((item.splitOn "\n").headD "") ++ "\n") ++ ":" ++ toString cs.directive ++ "\n"

end SoundControl.Cli
