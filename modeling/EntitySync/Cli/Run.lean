import EntitySync.Cli.Arguments
import EntitySync.Cli.Files
import EntitySync.Cli.Glob
import EntitySync.Document.Schema
import EntitySync.Schema.Fingerprint
import EntitySync.Inspect.Json
import EntitySync.Inspect.Text
import EntitySync.Demo.Playback
import EntitySync.Json.Print
import EntitySync.Text.Utf8
import EntitySync.Text.Hex
/-!
# Running the tool

A run reads the command line and either prints what reading it gave (help, the version, or a
mistake) or runs the command on a file system. `inspect` loads the schema if one is named and
checks it, then takes the recording at the path, or every regular file directly inside the
directory at the path that the glob (if any) accepts by its full path or by its name, in sorted
order; it prints a report for each, and stops at the first that cannot be read. `set-meta` reads
a recording's metadata, applies the assignments, and writes the recording back with the new
metadata.

A failure ends the run with status 1 and is printed as what was being done followed by its
causes, outermost first, each cause's later lines indented to stand under its first; what was
printed before it stays printed. Mistakes on the command line
end it with status 2.
-/

namespace EntitySync

namespace CommandLine

/-- What a run leaves: its exit status and what it printed. -/
structure Outcome where
  status : Nat
  stdout : String
  stderr : String

/-- A failure: what was being done, then its causes from the outermost in. -/
abbrev Failure := List String

/-- A cause, its later lines indented by `width` spaces to stand under its first. -/
def indentCause (width : Nat) (cause : String) : String := cause.replace "\n" ("\n" ++ spaces width)

/-- A failure as the tool prints it: a lone cause indented by four spaces, several numbered. -/
def failureText : Failure → String
  | [] => "Error: \n"
  | [what] => "Error: " ++ what ++ "\n"
  | [what, cause] => "Error: " ++ what ++ "\n\nCaused by:\n    " ++ indentCause 4 cause ++ "\n"
  | what :: causes =>
    "Error: " ++ what ++ "\n\nCaused by:\n" ++
      String.join (causes.zipIdx.map fun (c, i) => padLeft 5 (toString i) ++ ": " ++ indentCause 7 c ++ "\n")

/-- A step of a run in a monad `m` of file access: it may fail, and it prints to standard
output as it goes. -/
abbrev Run (m : Type → Type) := ExceptT Failure (StateT String m)

variable {m : Type → Type} [Monad m]

def say (text : String) : Run m Unit := modify (· ++ text)

/-- The value of a step that may fail, its failure described by `describe`. -/
def orFail {ε α : Type} (r : Except ε α) (describe : ε → Failure) : Run m α :=
  match r with
  | .ok v => pure v
  | .error e => throw (describe e)

/-- The causes of a file failure inside a recording operation. -/
def fileCauses (e : FileError) : Failure := (DemoError.file e).message :: (DemoError.file e).sources

/-- Loads and checks the schema at a path, giving its fingerprint. -/
def loadSchema (fs : FileSystem m) (p : String) : Run m Nat := do
  let bytes ← orFail (← fs.read p) fun e => ["load schema", s!"read schema {p}", e.message]
  let text ← orFail ((stringOfUtf8 bytes).elim (.error ()) .ok) fun _ =>
    ["load schema", s!"read schema {p}", FileError.invalidText.message]
  let schema ← orFail (Schema.ofDocument text) fun why => ["load schema", "parse schema json", why]
  orFail schema.validate fun e => ["load schema", "schema validation failed", e.message]
  return schema.fingerprint.toNat

/-- The recordings to inspect: the path itself, or the files inside the directory at it that
the glob accepts, sorted. -/
def demoPaths (fs : FileSystem m) (path : String) (glob : Option String) : Run m (List String) := do
  if !(← fs.isDirectory path) then return [path]
  let pattern ← match glob with
    | none => pure none
    | some g => do pure (some (← orFail (GlobPattern.compile g) fun e => ["invalid glob pattern", e.message]))
  let names ← orFail (← fs.listFiles path) fun e => [s!"read dir {path}", e.message]
  let accepted := names.filter fun n =>
    match pattern with
    | none => true
    | some p => globMatches p (joinPath path n).toList || globMatches p n.toList
  return (accepted.mergeSort fun a b => !(b < a)).map (joinPath path ·)

/-- Inspects one recording and prints its report. -/
def inspectOne (fs : FileSystem m) (hash : Option Nat) (json : Bool) (p : String) : Run m Unit := do
  let bytes ← orFail (← fs.read p) fun e => [s!"open demo {p}", e.message]
  let report ← orFail (inspectDemo bytes DemoConfig.standard hash) fun e =>
    s!"inspect demo {p}" :: e.message :: e.sources
  if json then say (Json.pretty 0 (.obj [("path", .str p), ("report", report.toJson)]) ++ "\n")
  else say ("== " ++ p ++ " ==\n" ++ report.render)

def inspectCommand (fs : FileSystem m) (path : String) (schema glob : Option String) (json : Bool) :
    Run m Unit := do
  let hash ← match schema with
    | none => pure none
    | some p => do pure (some (← loadSchema fs p))
  for p in ← demoPaths fs path glob do
    inspectOne fs hash json p

/-- Replaces the metadata of the recording at a path: the file is read again, and replaced by the
new metadata record, in a block of the size the recording has, followed by the records after the
old one. The file is replaced only once all of its new contents are made. -/
def rewriteMetadata (fs : FileSystem m) (path : String) (metadata : DemoMetadata)
    (config : DemoConfig) : m (Except DemoError Unit) := do
  match ← fs.read path with
  | .error e => return .error (.file e)
  | .ok bytes =>
    match replaceMetadata bytes metadata config with
    | .error e => return .error e
    | .ok out => return (← fs.replace path out).mapError .file

def setMetaCommand (fs : FileSystem m) (path : String) (assignments : List (String × String)) :
    Run m Unit := do
  let bytes ← orFail (← fs.read path) fun e => s!"read metadata {path}" :: fileCauses e
  let metadata ← orFail (readMetadata bytes DemoConfig.standard) fun e =>
    s!"read metadata {path}" :: e.message :: e.sources
  let (metadata, applied) := applyAssignments metadata assignments
  orFail applied fun e => ["apply metadata", e.message]
  orFail (← (rewriteMetadata fs path metadata DemoConfig.standard : m _)) fun e =>
    s!"rewrite metadata {path}" :: e.message :: e.sources
  let count := metadata.size
  say s!"{path}: {count} metadata entries\n"

def runCommand (fs : FileSystem m) : Command → Run m Unit
  | .inspect path schema glob json => inspectCommand fs path schema glob json
  | .setMeta path assignments => setMetaCommand fs path assignments

/-- Runs the tool with the given arguments on a file system. -/
def runTool (fs : FileSystem m) (args : List String) : m Outcome := do
  match Invocation.ofArgs args with
  | .exit e => return if e.toStdout then ⟨e.status, e.text, ""⟩ else ⟨e.status, "", e.text⟩
  | .run c =>
    let (r, out) ← (runCommand fs c).run.run ""
    match r with
    | .ok () => return ⟨0, out, ""⟩
    | .error f => return ⟨1, out, failureText f⟩

end CommandLine

end EntitySync
