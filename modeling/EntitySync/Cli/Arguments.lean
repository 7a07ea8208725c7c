import EntitySync.Cli.Similarity
import EntitySync.Inspect.Assignment
/-!
# The command line

The tool has two commands. `inspect PATH [--schema SCHEMA] [--glob GLOB] [--json]` prints the
metadata and the records of a recording, or of each recording in a directory. `set-meta PATH
ASSIGNMENTS...` replaces a recording's metadata. `help [COMMAND]...`, `--help` (`-h`) and, at
the top, `--version` (`-V`) print help and the version.

Arguments are read from the front. A word starting with `--` is a long option, its value after
`=` or in the next word (unless that word is itself an option); a word starting with one `-`
followed by more is a short option; after a bare `--` every word is a value. Other words fill
the positional arguments in order, the last of which may take every word left. The first
mistake stops reading and is reported with the command's usage, and with a pointer to `--help`
when the command has that option (the `help` command has none); help and version are printed
as soon as they are asked for. A missing required argument is reported once all words are read.
-/

namespace EntitySync

namespace CommandLine

def programName : String := "snapdelta-tools"

def programVersion : String := "0.1.0"

/-- What a value must look like. -/
inductive ValueRule where
  /-- Any text. -/
  | any
  /-- A path, which must not be empty. -/
  | path
  /-- An assignment `key=value`. -/
  | assignment
  deriving DecidableEq

/-- Why a value is refused, given how its argument is shown. -/
def ValueRule.check (rule : ValueRule) (shown v : String) : Option String :=
  match rule with
  | .any => none
  | .path => if v.isEmpty then some s!"a value is required for '{shown}' but none was supplied" else none
  | .assignment =>
    match parseAssignment v with
    | .ok _ => none
    | .error why => some s!"invalid value '{v}' for '{shown}': {why}"

/-- An option: its long name, its short letter if any, the name of its value if it takes one. -/
structure OptionSpec where
  long : String
  short : Option Char
  valueName : Option String
  help : String
  rule : ValueRule

/-- How an option is shown: `--name` or `--name <VALUE>`. -/
def OptionSpec.shown (o : OptionSpec) : String :=
  match o.valueName with
  | some v => "--" ++ o.long ++ " <" ++ v ++ ">"
  | none => "--" ++ o.long

/-- How an option is listed in help, its short letter first. -/
def OptionSpec.label (o : OptionSpec) : String :=
  match o.short with
  | some c => "-" ++ c.toString ++ ", " ++ o.shown
  | none => "    " ++ o.shown

/-- A positional argument: its name, whether it is required, whether it takes every value left. -/
structure ArgumentSpec where
  name : String
  required : Bool
  many : Bool
  help : String
  rule : ValueRule

/-- How a positional argument is shown: `<NAME>` when required, `[NAME]` when not, with `...`
when it takes many values. -/
def ArgumentSpec.shown (a : ArgumentSpec) : String :=
  (if a.required then "<" ++ a.name ++ ">" else "[" ++ a.name ++ "]") ++ (if a.many then "..." else "")

/-- A command: the words that start it, what it does, its arguments and options, and the
commands below it with what they do. -/
structure CommandSpec where
  path : String
  about : String
  arguments : List ArgumentSpec
  options : List OptionSpec
  commands : List (String × String)

def helpOption : OptionSpec := ⟨"help", some 'h', none, "Print help", .any⟩

def versionOption : OptionSpec := ⟨"version", some 'V', none, "Print version", .any⟩

def inspectSpec : CommandSpec where
  path := programName ++ " inspect"
  about := "Print a demo's metadata and per-record sizes"
  arguments := [⟨"PATH", true, false, "Demo file, or a directory of demos", .path⟩]
  options := [
    ⟨"schema", none, some "SCHEMA", "Optional schema JSON; frames are checked against its hash", .path⟩,
    ⟨"glob", none, some "GLOB", "Glob filter when inspecting a directory", .any⟩,
    ⟨"json", none, none, "Emit JSON instead of text", .any⟩,
    helpOption]
  commands := []

def setMetaSpec : CommandSpec where
  path := programName ++ " set-meta"
  about := "Rewrite a demo's metadata in place"
  arguments := [
    ⟨"PATH", true, false, "Demo file", .path⟩,
    ⟨"ASSIGNMENTS", true, true, "`key=value` pairs; an empty value removes the key", .assignment⟩]
  options := [helpOption]
  commands := []

def helpAbout : String := "Print this message or the help of the given subcommand(s)"

def helpSpec : CommandSpec where
  path := programName ++ " help"
  about := helpAbout
  arguments := [⟨"COMMAND", false, true, "Print help for the subcommand(s)", .any⟩]
  options := []
  commands := []

def topSpec : CommandSpec where
  path := programName
  about := "snapdelta demo inspection and maintenance tools"
  arguments := []
  options := [helpOption, versionOption]
  commands := [("inspect", inspectSpec.about), ("set-meta", setMetaSpec.about), ("help", helpAbout)]

/-- The command below the program with the given name. -/
def subcommand? (name : String) : Option CommandSpec :=
  if name == "inspect" then some inspectSpec
  else if name == "set-meta" then some setMetaSpec
  else if name == "help" then some helpSpec
  else none

def spaces (n : Nat) : String := String.ofList (List.replicate n ' ')

/-- Labelled lines, the descriptions aligned two spaces after the longest label. -/
def rows (items : List (String × String)) : String :=
  let width := items.foldl (fun w (l, _) => max w l.length) 0
  "\n".intercalate (items.map fun (l, h) => "  " ++ l ++ spaces (width - l.length + 2) ++ h)

namespace CommandSpec

/-- The usage line help shows: every argument, with `[OPTIONS]` when there are options besides
help and version. -/
def usage (c : CommandSpec) : String :=
  let opts := if c.options.any (fun o => o.long != "help" && o.long != "version") then " [OPTIONS]" else ""
  let args := String.join (c.arguments.map fun a => " " ++ a.shown)
  let cmds := if c.commands.isEmpty then "" else " <COMMAND>"
  c.path ++ opts ++ args ++ cmds

def help (c : CommandSpec) : String :=
  let commands := if c.commands.isEmpty then [] else ["Commands:\n" ++ rows c.commands]
  let arguments := if c.arguments.isEmpty then []
    else ["Arguments:\n" ++ rows (c.arguments.map fun a => (a.shown, a.help))]
  let options := if c.options.isEmpty then []
    else ["Options:\n" ++ rows (c.options.map fun o => (o.label, o.help))]
  c.about ++ "\n\nUsage: " ++ c.usage ++ "\n\n" ++ "\n\n".intercalate (commands ++ arguments ++ options) ++ "\n"

def findLong? (c : CommandSpec) (name : String) : Option OptionSpec := c.options.find? (·.long == name)

def findShort? (c : CommandSpec) (ch : Char) : Option OptionSpec := c.options.find? (·.short == some ch)

end CommandSpec

/-- An argument given so far: an option by long name, or a positional argument by position. -/
inductive Given where
  | option (long : String)
  | argument (index : Nat)
  deriving DecidableEq

/-- The usage line an error shows once some arguments are given: the required arguments and
those given, options first in the order given, then the positional ones in order. -/
def CommandSpec.usageWith (c : CommandSpec) (given : List Given) : String :=
  let opts := given.filterMap fun g => match g with
    | .option l => (c.findLong? l).map (·.shown)
    | .argument _ => none
  let args := (c.arguments.zipIdx).filterMap fun (a, i) =>
    if a.required || given.contains (.argument i) then some a.shown else none
  let tail := if c.commands.isEmpty then [] else ["<COMMAND>"]
  " ".intercalate (c.path :: opts.eraseDups ++ args ++ tail)

/-- How reading the command line ends early: text for standard output or standard error, and
the exit status. -/
structure Exit where
  toStdout : Bool
  text : String
  status : Nat

def Exit.help (c : CommandSpec) : Exit := ⟨true, c.help, 0⟩

/-- A refusal of the command line: the message, tips, the usage line if one is shown, and the
closing text. -/
def Exit.refusal (message : String) (tips : List String) (usage : Option String) (closing : String) :
    Exit :=
  let tipText := match tips with
    | [] => ""
    | _ => "\n" ++ String.join (tips.map fun t => "\n  tip: " ++ t)
  let usageText := match usage with
    | some u => "\n\nUsage: " ++ u
    | none => ""
  ⟨false, "error: " ++ message ++ tipText ++ usageText ++ closing, 2⟩

/-- How a refusal made for command `c` closes: with where to find help when `c` has a help
option, and with a bare line break when it has none. -/
def CommandSpec.closing (c : CommandSpec) : String :=
  if c.options.any (·.long == "help") then "\n\nFor more information, try '--help'.\n" else "\n"

/-- A mistake made with a command that has a help option: the message, tips, and the usage line
if one is shown. -/
def Exit.mistake (message : String) (tips : List String) (usage : Option String) : Exit :=
  .refusal message tips usage "\n\nFor more information, try '--help'.\n"

/-- The arguments read so far. -/
structure Matches where
  /-- What was given, in the order first given. -/
  given : List Given
  /-- The values of options, by long name. -/
  values : List (String × String)
  positionals : List String

def similarTip (what : String) (names : List String) : List String :=
  match names with
  | [] => []
  | [n] => ["a similar " ++ what ++ " exists: '" ++ n ++ "'"]
  | _ => ["some similar " ++ what ++ "s exist: " ++ ", ".intercalate (names.map fun n => "'" ++ n ++ "'")]

/-- The text of a long option without its dashes, split at its first `=`. -/
def splitLong (body : String) : String × Option String :=
  let cs := body.toList
  match cs.findIdx? (· == '=') with
  | some i => (String.ofList (cs.take i), some (String.ofList (cs.drop (i + 1))))
  | none => (body, none)

def emptyValue (o : OptionSpec) : Exit :=
  let shown := o.shown
  .mistake s!"a value is required for '{shown}' but none was supplied" [] none

def givenTwice (c : CommandSpec) (shown : String) : Exit :=
  .mistake s!"the argument '{shown}' cannot be used multiple times" [] (some c.usage)

/-- The mistake of an unknown long option of command `c`, with the words after it; a similar
option of `c` is offered, or else one of the command below `c` that is named first among the
later words. -/
def unknownLong (c : CommandSpec) (m : Matches) (name : String) (later : List String) (trailing : Bool) :
    Exit :=
  let arg := "--" ++ name
  let own := (similarNames name (c.options.map (·.long))).getLast?
  let offers := c.commands.filterMap fun (sub, _) => do
    let spec ← subcommand? sub
    let cand ← (similarNames name (spec.options.map (·.long))).getLast?
    let place ← later.findIdx? (· == sub)
    some (place, sub, cand)
  let below := (offers.foldl (fun best o => match best with
    | some b => if o.1 < b.1 then some o else some b
    | none => some o) none).map Prod.snd
  let offerValue := own.isNone && !trailing && !c.arguments.isEmpty
  let valueTip := if offerValue then ["to pass '" ++ arg ++ "' as a value, use '-- " ++ arg ++ "'"] else []
  match own with
  | some cand =>
    let given := m.given ++ [.option cand]
    .mistake s!"unexpected argument '{arg}' found" (similarTip "argument" ["--" ++ cand] ++ valueTip)
      (some (c.usageWith given))
  | none =>
    let usage := if m.given.isEmpty then c.usage else c.usageWith m.given
    let belowTip := match below with
      | some (sub, cand) => [s!"'{sub} --{cand}' exists"]
      | none => []
    .mistake s!"unexpected argument '{arg}' found" (valueTip ++ belowTip) (some usage)

/-- The mistake of an unknown short option. -/
def unknownShort (c : CommandSpec) (ch : Char) (trailing : Bool) : Exit :=
  let arg := "-" ++ ch.toString
  let tips := if !trailing && !c.arguments.isEmpty then ["to pass '" ++ arg ++ "' as a value, use '-- " ++ arg ++ "'"] else []
  .mistake s!"unexpected argument '{arg}' found" tips (some c.usage)

/-- The mistake of a word where a command below is expected. -/
def unknownCommand (c : CommandSpec) (word : String) : Exit :=
  let names := c.commands.map Prod.fst
  .mistake s!"unrecognized subcommand '{word}'" (similarTip "subcommand" (similarNames word names)) (some c.usage)

/-- Records an option's value, refusing a bad value or a second use. -/
def Matches.setOption (m : Matches) (c : CommandSpec) (o : OptionSpec) (v : String) : Except Exit Matches :=
  match o.rule.check o.shown v with
  | some why => .error (.mistake why [] none)
  | none =>
    if m.given.contains (.option o.long) then .error (givenTwice c o.shown)
    else .ok { m with given := m.given ++ [.option o.long], values := m.values ++ [(o.long, v)] }

/-- Records a positional value, refusing a bad value or one too many. -/
def Matches.addPositional (m : Matches) (c : CommandSpec) (v : String) : Except Exit Matches :=
  let n := m.positionals.length
  let slot := match c.arguments[n]? with
    | some a => some (a, n)
    | none => match c.arguments.getLast? with
      | some a => if a.many then some (a, c.arguments.length - 1) else none
      | none => none
  match slot with
  | none => .error (.mistake s!"unexpected argument '{v}' found" [] (some c.usage))
  | some (a, i) =>
    match a.rule.check a.shown v with
    | some why => .error (.mistake why [] none)
    | none =>
      let given := if m.given.contains (.argument i) then m.given else m.given ++ [.argument i]
      .ok { m with given, positionals := m.positionals ++ [v] }

/-- Checks that every required positional argument was given. -/
def Matches.complete (m : Matches) (c : CommandSpec) : Except Exit Matches :=
  let missing := (c.arguments.zipIdx).filter fun (a, i) => a.required && !m.given.contains (.argument i)
  match missing with
  | [] => .ok m
  | _ =>
    let lines := String.join (missing.map fun (a, _) => "\n  " ++ a.shown)
    let given := m.given ++ missing.map fun (_, i) => .argument i
    .error (.mistake ("the following required arguments were not provided:" ++ lines) [] (some (c.usageWith given)))

/-- Reads the words of command `c`; `pending` is an option waiting for its value, and after
`trailing` every word is a positional value: an option still waiting when `--` comes stays
without its value. -/
def readWords (c : CommandSpec) : List String → Bool → Option OptionSpec → Matches → Except Exit Matches
  | [], _, pending, m =>
    match pending with
    | some o => .error (emptyValue o)
    | none => m.complete c
  | a :: rest, trailing, pending, m =>
    if !trailing && a == "--" then readWords c rest true pending m
    else if !trailing && a.startsWith "--" then
      let (name, attached) := splitLong (a.drop 2).toString
      match c.findLong? name, attached with
      | none, _ => .error (unknownLong c m name rest trailing)
      | some o, some v =>
        if o.valueName.isNone then
          let shown := o.shown
          let given := m.given ++ [.option o.long]
          .error (.mistake s!"unexpected value '{v}' for '{shown}' found; no more were expected" []
            (some (c.usageWith given)))
        else match pending with
          | some p => .error (emptyValue p)
          | none => do readWords c rest trailing none (← m.setOption c o v)
      | some o, none =>
        match pending with
        | some p => .error (emptyValue p)
        | none =>
          if o.long == "help" then .error (.help c)
          else if o.valueName.isSome then readWords c rest trailing (some o) m
          else do readWords c rest trailing none (← m.setOption c o "")
    else if !trailing && a.startsWith "-" && 1 < a.length then
      let ch := (a.toList.drop 1).headD ' '
      match c.findShort? ch with
      | none => .error (unknownShort c ch trailing)
      | some o =>
        match pending with
        | some p => .error (emptyValue p)
        | none => if o.long == "help" then .error (.help c) else .error (unknownShort c ch trailing)
    else match pending, trailing with
      | some o, false => do readWords c rest trailing none (← m.setOption c o a)
      | _, _ => do readWords c rest trailing pending (← m.addPositional c a)

def readCommand (c : CommandSpec) (words : List String) : Except Exit Matches :=
  readWords c words false none ⟨[], [], []⟩

/-- A command to run. -/
inductive Command where
  /-- Inspect a recording or a directory of recordings. -/
  | inspect (path : String) (schema glob : Option String) (json : Bool)
  /-- Replace a recording's metadata. -/
  | setMeta (path : String) (assignments : List (String × String))

/-- What the command line asks for: a command, or text to print and an exit status. -/
inductive Invocation where
  | run (c : Command)
  | exit (e : Exit)

def Matches.value? (m : Matches) (long : String) : Option String := (m.values.find? (·.1 == long)).map Prod.snd

/-- The help the `help` command prints for the commands named by `names`, below `c`. -/
def helpFor (c : CommandSpec) : List String → Exit
  | [] => ⟨true, c.help, 0⟩
  | n :: more =>
    match if c.commands.any (·.1 == n) then subcommand? n else none with
    | some sub => helpFor sub more
    | none => .refusal s!"unrecognized subcommand '{n}'" [] (some c.usage) c.closing

/-- The result of reading a command's words. -/
def finish (r : Except Exit Matches) (build : Matches → Command) : Invocation :=
  match r with
  | .ok m => .run (build m)
  | .error e => .exit e

def versionText : String := programName ++ " " ++ programVersion ++ "\n"

def Invocation.ofArgs (args : List String) : Invocation :=
  match args with
  | [] => .exit ⟨false, topSpec.help, 2⟩
  | a :: rest =>
    if a == "--" then
      match rest with
      | [] => .exit ⟨false, topSpec.help, 2⟩
      | b :: _ =>
        if (subcommand? b).isSome then
          .exit (.mistake "unexpected argument '--' found"
            [s!"subcommand '{b}' exists; to use it, remove the '--' before it"] (some topSpec.usage))
        else .exit (unknownCommand topSpec b)
    else if a.startsWith "--" then
      let (name, attached) := splitLong (a.drop 2).toString
      match attached with
      | some v =>
        if name == "help" || name == "version" then
          let shown := "--" ++ name
          .exit (.mistake s!"unexpected value '{v}' for '{shown}' found; no more were expected" []
            (some (topSpec.usageWith [.option name])))
        else .exit (unknownLong topSpec ⟨[], [], []⟩ name rest false)
      | none =>
        if name == "help" then .exit (.help topSpec)
        else if name == "version" then .exit ⟨true, versionText, 0⟩
        else .exit (unknownLong topSpec ⟨[], [], []⟩ name rest false)
    else if a.startsWith "-" && 1 < a.length then
      let ch := (a.toList.drop 1).headD ' '
      if ch == 'h' then .exit (.help topSpec)
      else if ch == 'V' then .exit ⟨true, versionText, 0⟩
      else .exit (unknownShort topSpec ch false)
    else if a == "inspect" then
      finish (readCommand inspectSpec rest) fun m =>
        .inspect (m.positionals.headD "") (m.value? "schema") (m.value? "glob") (m.given.contains (.option "json"))
    else if a == "set-meta" then
      finish (readCommand setMetaSpec rest) fun m =>
        .setMeta (m.positionals.headD "") ((m.positionals.drop 1).filterMap fun w =>
          match parseAssignment w with
          | .ok kv => some kv
          | .error _ => none)
    else if a == "help" then .exit (helpFor topSpec rest)
    else .exit (unknownCommand topSpec a)

end CommandLine

end EntitySync
