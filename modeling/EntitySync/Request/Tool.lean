import EntitySync.Request.Basic
import EntitySync.Cli.Run
/-!
# Running the tool on request

A request gives the files the tool sees, by relative path with their bytes (as hex `data` or as
`text`), written in order so that a later file of a path replaces an earlier one, and its
arguments. The answer is the exit status, what the tool printed, and, when
`read_back` is set, every given file as it is after the run.
-/

namespace EntitySync

namespace Request

/-- A given file: its path and its bytes, from its text when it has one and from its hex data
otherwise. -/
def inputFile (j : Json) : Reading (String × Bytes) := do
  let name ← strField j "name"
  match strFieldOpt j "text" with
  | some t => return (name, encodeUtf8 t)
  | none => return (name, ← hexField j "data")

/-- Runs the tool on the given files and arguments. -/
def toolRequest (j : Json) : Reading Json := do
  let files ← (← arrFieldOr j "files").mapM inputFile
  let args ← (← arrField j "args").mapM asStr
  let readBack ← boolFieldOr j "read_back" false
  let (out, after) := (CommandLine.runTool MemoryFiles.system args).run (MemoryFiles.ofList files)
  let back := if readBack then
      files.filterMap fun (name, _) => match after.read name with
        | .ok bs => some (Json.arr [.str name, hexJson bs])
        | .error _ => none
    else []
  return .obj [("status", .nat out.status), ("stdout", .str out.stdout), ("stderr", .str out.stderr),
    ("files", .arr back)]

end Request

end EntitySync
