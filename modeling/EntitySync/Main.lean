import EntitySync.Cli.Run
/-!
# Entry point

Runs the tool on the files of the machine: the arguments come from the command line, what the
tool prints goes to standard output and standard error, and its status is the exit code.
Directories are recognised by the failure to read them as files; their contents cannot be
listed from here, so inspecting a directory reports that.
-/

namespace EntitySync

namespace DiskFiles

/-- The file error an input/output failure stands for. -/
def fileErrorOf (e : IO.Error) : FileError :=
  match e with
  | .noFileOrDirectory .. => .notFound
  | .inappropriateType _ 20 _ => .notDirectory
  | .inappropriateType .. => .isDirectory
  | .unexpectedEof => .unexpectedEnd
  | _ => .notFound

def read (p : String) : IO (Except FileError Bytes) := do
  try
    let data ← IO.FS.readBinFile p
    return .ok data.toList
  catch e =>
    return .error (fileErrorOf e)

def system : FileSystem IO where
  read := read
  isDirectory p := do
    match ← read p with
    | .error .isDirectory => return true
    | _ => return false
  listFiles _ := return .error .isDirectory
  replace p bs := do
    -- the new bytes go to a file beside `p` that then takes its place in one rename, so a
    -- failure leaves `p` as it was
    let temp := p ++ ".tmp"
    try
      IO.FS.writeBinFile temp (ByteArray.mk bs.toArray)
      IO.FS.rename temp p
      return .ok ()
    catch e =>
      try IO.FS.removeFile temp catch _ => pure ()
      return .error (fileErrorOf e)

end DiskFiles

end EntitySync

/-- Runs the tool with the command line's arguments. -/
def main (args : List String) : IO UInt32 := do
  let out ← EntitySync.CommandLine.runTool EntitySync.DiskFiles.system args
  IO.print out.stdout
  IO.eprint out.stderr
  return out.status.toUInt32
