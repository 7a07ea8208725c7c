import EntitySync.Demo.Error
import EntitySync.Stream.Word
/-!
# Files

The command line reads and writes files through a `FileSystem`: reading a file, telling whether
a path is a directory, listing the names of the regular files directly inside a directory, and
replacing a file's contents.

`MemoryFiles` is a file system held in memory: a list of files by path, with directories implied
by the paths of the files inside them. A path is looked up one component at a time from the
top directory, as a POSIX system resolves it: empty and `.` components stay where they are,
`..` goes up, and a name goes down into a directory. A name that is missing ends the lookup
with nothing found; a file's name followed by anything more (even a slash or a `.`) names
nothing either and says so. The empty path names nothing. The directory above the top, where
`..` from the top and a path starting with a slash lead, holds nothing seen here.
-/

namespace EntitySync

/-- The file operations the command line needs, in a monad `m`. -/
structure FileSystem (m : Type → Type) where
  read : String → m (Except FileError Bytes)
  isDirectory : String → m Bool
  /-- The names of the regular files directly inside a directory. -/
  listFiles : String → m (Except FileError (List String))
  replace : String → Bytes → m (Except FileError Unit)

/-- The components of a stored file's path, without empty and `.` components. -/
def pathComponents (p : String) : List String :=
  (p.splitOn "/").filter fun c => !c.isEmpty && c != "."

/-- The path `p` followed by `name`, with one slash between them. -/
def joinPath (p name : String) : String :=
  if p.endsWith "/" then p ++ name else p ++ "/" ++ name

/-- What a path names. -/
inductive PathEntry where
  /-- A file, with the components of its place and its contents. -/
  | file (place : List String) (bytes : Bytes)
  /-- A directory, by the components of its place, or `none` for the one above the top. -/
  | directory (place : Option (List String))
  | missing
  /-- The path goes on past a file's name. -/
  | blocked

/-- Files held in memory, by path. -/
structure MemoryFiles where
  files : List (String × Bytes)

namespace MemoryFiles

/-- Files written in order: each path holds the bytes last written to it. -/
def ofList (files : List (String × Bytes)) : MemoryFiles :=
  ⟨files.map fun (q, bs) =>
    match files.reverse.find? (fun (r, _) => pathComponents r == pathComponents q) with
    | some (_, last) => (q, last)
    | none => (q, bs)⟩

def fileAt? (fs : MemoryFiles) (cs : List String) : Option Bytes :=
  (fs.files.find? fun (q, _) => pathComponents q == cs).map Prod.snd

/-- Whether some file lies below the directory with the given components. -/
def hasBelow (fs : MemoryFiles) (dir : List String) : Bool :=
  fs.files.any fun (q, _) =>
    let cs := pathComponents q
    dir.length < cs.length && cs.take dir.length == dir

/-- Follows the components of a path from the directory `dir` (`none` being the one above the
top). -/
def walk (fs : MemoryFiles) : Option (List String) → List String → PathEntry
  | dir, [] => .directory dir
  | dir, c :: rest =>
    if c.isEmpty || c == "." then walk fs dir rest
    else if c == ".." then
      match dir with
      | some d => walk fs (if d.isEmpty then none else some d.dropLast) rest
      | none => walk fs none rest
    else
      match dir with
      | none => .missing
      | some d =>
        let here := d ++ [c]
        match fs.fileAt? here with
        | some bs => if rest.isEmpty then .file here bs else .blocked
        | none => if fs.hasBelow here then walk fs (some here) rest else .missing

/-- The directory a path starts from: the top, or the one above it for a path with a leading
slash. -/
def start (p : String) : Option (List String) := if p.startsWith "/" then none else some []

def lookup (fs : MemoryFiles) (p : String) : PathEntry :=
  if p.isEmpty then .missing else fs.walk (start p) (p.splitOn "/")

def read (fs : MemoryFiles) (p : String) : Except FileError Bytes :=
  match fs.lookup p with
  | .file _ bs => .ok bs
  | .directory _ => .error .isDirectory
  | .missing => .error .notFound
  | .blocked => .error .notDirectory

/-- The regular files directly inside a directory, each once. -/
def listFiles (fs : MemoryFiles) (p : String) : Except FileError (List String) :=
  match fs.lookup p with
  | .directory (some dir) =>
    let names := fs.files.filterMap fun (q, _) =>
      let cs := pathComponents q
      if cs.length == dir.length + 1 && cs.take dir.length == dir then cs.getLast? else none
    .ok names.eraseDups
  | .directory none => .ok []
  | .file _ _ | .blocked => .error .notDirectory
  | .missing => .error .notFound

/-- Replaces a file's contents, or adds the file when the directory it goes in is there. -/
def replace (fs : MemoryFiles) (p : String) (bs : Bytes) : Except FileError MemoryFiles :=
  match fs.lookup p with
  | .file place _ =>
    .ok ⟨fs.files.map fun (q, old) => if pathComponents q == place then (q, bs) else (q, old)⟩
  | .missing =>
    let parts := p.splitOn "/"
    match fs.walk (start p) parts.dropLast, parts.getLast? with
    | .directory (some dir), some name => .ok ⟨fs.files ++ [("/".intercalate (dir ++ [name]), bs)]⟩
    | _, _ => .error .notFound
  | .directory _ => .error .isDirectory
  | .blocked => .error .notDirectory

/-- The in-memory file system, as operations on a state. -/
def system : FileSystem (StateM MemoryFiles) where
  read p := return (← get).read p
  isDirectory p := return match (← get).lookup p with
    | .directory _ => true
    | _ => false
  listFiles p := return (← get).listFiles p
  replace p bs := do
    match (← get).replace p bs with
    | .ok fs => set fs; return .ok ()
    | .error e => return .error e

end MemoryFiles

end EntitySync
