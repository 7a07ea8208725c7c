import EntitySync.Codec.Error
/-!
# Recording errors

What can go wrong while writing or reading a recording: reading or opening the file fails, a
record is longer than a reader accepts, the recording ends without its end marker, the metadata
block is malformed, a record to write is too long or is cut beyond its end, or a buffer or the
codec fails inside. A recording that cannot be read any further is fatal; the two mistakes of a
writer that leave the recording intact are not.
-/

namespace EntitySync

/-- Why reading a file failed. -/
inductive FileError where
  /-- The data ran out before a read was complete. -/
  | unexpectedEnd
  /-- No file exists at the path. -/
  | notFound
  /-- The path names a directory. -/
  | isDirectory
  /-- A component of the path before its end names a file. -/
  | notDirectory
  /-- The file does not hold text. -/
  | invalidText
  deriving DecidableEq, Repr

/-- The one-line description of a file failure. -/
def FileError.message : FileError → String
  | .unexpectedEnd => "failed to fill whole buffer"
  | .notFound => "No such file or directory (os error 2)"
  | .isDirectory => "Is a directory (os error 21)"
  | .notDirectory => "Not a directory (os error 20)"
  | .invalidText => "stream did not contain valid UTF-8"

/-- Why a metadata block is refused. -/
inductive MetadataError where
  /-- The entries do not fit the reserved block. -/
  | tooLarge (size max : Nat)
  /-- A key is empty, or a key or value holds a NUL. -/
  | invalidEntry (key : String)
  /-- A header field disagrees with the layout of the record. -/
  | badHeader (field : String) (expected found : Int)
  /-- The block ends inside a key or value. -/
  | unterminated
  /-- A key or value is not UTF-8. -/
  | invalidUtf8
  deriving DecidableEq, Repr

/-- The one-line description of a metadata failure. -/
def MetadataError.message : MetadataError → String
  | .tooLarge size max => s!"{size} bytes of metadata exceed the {max} byte block"
  | .invalidEntry key => s!"invalid metadata entry '{key}'"
  | .badHeader field expected found => s!"metadata {field} is {found}, expected {expected}"
  | .unterminated => "unterminated metadata entry"
  | .invalidUtf8 => "metadata is not valid utf-8"

/-- Why recording or playing a recording failed. -/
inductive DemoError where
  | file (e : FileError)
  /-- A record's length exceeds what the reader accepts. -/
  | corrupt (length max : Nat)
  /-- The recording ended without its end marker after this many records. -/
  | truncated (records : Nat)
  | metadata (e : MetadataError)
  /-- A record to write is longer than a reader accepts. -/
  | messageTooLarge (len max : Nat)
  /-- A record was to start past the end of its message. -/
  | invalidSkip (skip len : Nat)
  | stream (e : StreamError)
  | codec (e : CodecError)
  deriving Repr

namespace DemoError

def isFatal : DemoError → Bool
  | .invalidSkip .. | .messageTooLarge .. => false
  | _ => true

def message : DemoError → String
  | .file e => s!"demo i/o error: {e.message}"
  | .corrupt length max => s!"corrupt demo: record of {length} bytes exceeds {max} bytes"
  | .truncated records => s!"demo ended without end marker after {records} records"
  | .metadata e => s!"demo metadata error: {e.message}"
  | .messageTooLarge len max => s!"message of {len} bytes exceeds demo maximum of {max}"
  | .invalidSkip skip len => s!"cannot skip {skip} bytes of a {len} byte message"
  | .stream e => s!"demo buffer error: {e.message}"
  | .codec e => s!"demo codec error: {e.message}"

/-- The descriptions of the failure's causes, nearest first. -/
def sources : DemoError → List String
  | .file e => [e.message]
  | .metadata e => [e.message]
  | .stream e => [e.message]
  | .codec e => e.message :: e.sources
  | _ => []

end DemoError

end EntitySync
