import EntitySync.Frame.Error
import EntitySync.Frame.Limits
import EntitySync.Stream.Buffer
/-!
# Config-string sections

The config-string table travels as the body of its own section: the number of entries as a
varint, then each entry's index as a varint and its text NUL-terminated. Indices lie below
`maxConfigStrings` and texts have at most `maxConfigStringLen` bytes.

Writing goes entry by entry: a bad entry stops the writing but leaves what was written before it
in the buffer, so the table is written whole only when writing succeeds. Reading accepts nothing
after the last entry.
-/

namespace EntitySync

/-- One config string: its index in the table and its text. -/
abbrev ConfigEntry := Nat × String

/-- Writes the entries one by one after their count. The buffer holds what was written, also
when an entry fails; the second component says whether all of it was. -/
def encodeConfigEntries (limits : FrameLimits) :
    List ConfigEntry → Buffer → Buffer × Except FrameEncodeError Unit
  | [], out => (out, .ok ())
  | (index, text) :: rest, out =>
    if limits.maxConfigStrings ≤ index then
      (out, .error (.configStringIndex index limits.maxConfigStrings))
    else match out.writeVarint index with
      | .error e => (out, .error (.overflow e))
      | .ok out => match out.writeString text limits.maxConfigStringLen with
        | .error e => (out, .error (.overflow e))
        | .ok out => encodeConfigEntries limits rest out

/-- Writes a config-string body into `out`: the count, then the entries. -/
def encodeConfigStrings (entries : List ConfigEntry) (limits : FrameLimits) (out : Buffer) :
    Buffer × Except FrameEncodeError Unit :=
  if 2 ^ (32 : Nat) ≤ entries.length then (out, .error (.lengthOverflow entries.length))
  else match out.writeVarint entries.length with
    | .error e => (out, .error (.overflow e))
    | .ok out => encodeConfigEntries limits entries out

def configBodyError (e : StreamError) : FrameError := .body .configStrings e

def decodeConfigEntries (limits : FrameLimits) : Nat → Cursor → Except FrameError (List ConfigEntry × Cursor)
  | 0, c => .ok ([], c)
  | count + 1, c => do
    let (index, c) ← c.readVarU32.mapError configBodyError
    if limits.maxConfigStrings ≤ index then
      throw (.limitExceeded .configStringIndex limits.maxConfigStrings index)
    let (text, c) ← (c.readString limits.maxConfigStringLen).mapError configBodyError
    let (rest, c) ← decodeConfigEntries limits count c
    return ((index, text) :: rest, c)

/-- Reads a config-string body: the count, the entries, and nothing after them. -/
def decodeConfigStrings (body : Bytes) (limits : FrameLimits) :
    Except FrameError (List ConfigEntry) := do
  let (count, c) ← (Cursor.init body).readVarU32.mapError configBodyError
  if limits.maxConfigStrings < count then
    throw (.limitExceeded .configStringCount limits.maxConfigStrings count)
  let (entries, c) ← decodeConfigEntries limits count c
  if !c.rest.isEmpty then throw (.framing (.trailingBytes .configStrings c.remaining))
  return entries

end EntitySync
