import EntitySync.Frame.Section
import EntitySync.Stream.Error
import EntitySync.Text.Hex
/-!
# Frame errors

Why a frame could not be decoded or encoded. A decoding failure names the first rule of the
format that the bytes break; a failure inside a section body keeps the stream error beneath it,
which is then its cause.
-/

namespace EntitySync

/-- Which frame bound was passed. -/
inductive LimitKind where
  | messageBytes
  | sectionCount
  | sectionLength
  | configStringCount
  | configStringIndex
  deriving DecidableEq, Repr

def LimitKind.describe : LimitKind → String
  | .messageBytes => "message bytes"
  | .sectionCount => "section count"
  | .sectionLength => "section length"
  | .configStringCount => "config string count"
  | .configStringIndex => "config string index"

/-- A section that could not be cut out of the payload. -/
inductive FramingError where
  | invalidVarint
  | truncated (needed available : Nat)
  | trailingBytes (tag : SectionTag) (extra : Nat)
  deriving DecidableEq, Repr

/-- The one-line description of a framing failure. -/
def FramingError.message : FramingError → String
  | .invalidVarint => "invalid varint"
  | .truncated needed available => s!"truncated section: need {needed} bytes, have {available}"
  | .trailingBytes tag extra => s!"{extra} trailing bytes after {tag.name} section"

/-- Why bytes are not a frame. -/
inductive FrameError where
  | messageTooSmall (actual required : Nat)
  | invalidMagic (found : Nat)
  | unsupportedVersion (found : Nat)
  | invalidFlags (flags : Nat)
  | invalidBaselineTick (tick baselineTick flags : Nat)
  | payloadLengthMismatch (headerLen actualLen : Nat)
  | unknownSectionTag (tag : Nat)
  | duplicateSection (tag : SectionTag)
  | limitExceeded (kind : LimitKind) (limit actual : Nat)
  | framing (e : FramingError)
  | body (tag : SectionTag) (e : StreamError)
  deriving DecidableEq, Repr

namespace FrameError

/-- The one-line description of a decoding failure. -/
def message : FrameError → String
  | messageTooSmall actual required =>
    s!"message too small: {actual} bytes, need at least {required}"
  | invalidMagic found => "invalid magic number: 0x" ++ hexUpper 8 found
  | unsupportedVersion found => s!"unsupported wire version: {found}"
  | invalidFlags flags => "invalid flags: 0x" ++ hexUpper 4 flags
  | invalidBaselineTick tick baselineTick flags =>
    s!"invalid baseline tick {baselineTick} at tick {tick} for flags 0x" ++ hexUpper 4 flags
  | payloadLengthMismatch headerLen actualLen =>
    s!"payload length mismatch: header {headerLen} bytes but {actualLen} available"
  | unknownSectionTag tag => s!"unknown section tag: {tag}"
  | duplicateSection tag => s!"duplicate section: {tag.name}"
  | limitExceeded kind limit actual => s!"{kind.describe} limit exceeded: {actual} > {limit}"
  | framing e => s!"section framing error: {e.message}"
  | body tag e => s!"malformed {tag.name} section: {e.message}"

def bitError : FrameError → Option StreamError
  | body _ e => some e
  | _ => none

/-- The descriptions of the causes beneath a decoding failure, nearest first. -/
def sources (e : FrameError) : List String :=
  match e.bitError with
  | some b => [b.message]
  | none => []

end FrameError

/-- Why a frame could not be written. -/
inductive FrameEncodeError where
  /-- The output buffer refused a write. -/
  | overflow (e : StreamError)
  /-- A length does not fit the 32 bits the format gives it. -/
  | lengthOverflow (length : Nat)
  /-- A config-string index is outside the table. -/
  | configStringIndex (index max : Nat)
  deriving DecidableEq, Repr

namespace FrameEncodeError

/-- The one-line description of an encoding failure. -/
def message : FrameEncodeError → String
  | overflow e => s!"encode overflow: {e.message}"
  | lengthOverflow length => s!"length overflow: {length}"
  | configStringIndex index max => s!"config string index {index} exceeds table size {max}"

/-- The descriptions of the causes beneath an encoding failure, nearest first. -/
def sources : FrameEncodeError → List String
  | overflow e => [e.message]
  | _ => []

end FrameEncodeError

end EntitySync
