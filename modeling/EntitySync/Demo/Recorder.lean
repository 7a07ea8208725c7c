import EntitySync.Demo.Metadata
import EntitySync.Demo.Config
import EntitySync.Codec.Message
import EntitySync.Session.Table
/-!
# Recording

A recording is the metadata record, then records, each a 32-bit little-endian length and that
many bytes, then the end marker, a length of `0xFFFFFFFF`. Records come from raw messages, from
the live buffer (written out once it is more than half full, before every frame, and at the
end), and from snapshot frames. The first frame is a bootstrap message carrying every entity and
every config string; each later frame is a delta against the frame before it and carries the
config strings set since. A frame that fails leaves the last frame and the pending config
strings as they were.

No record is longer than the configured maximum, and none has the end marker's length.
-/

namespace EntitySync

/-- A record: its length and its bytes, if a reader with the given maximum accepts it. -/
def encodeRecord (bytes : Bytes) (max : Nat) : Except DemoError Bytes :=
  if endOfStream ≤ bytes.length ∨ max < bytes.length then .error (.messageTooLarge bytes.length max)
  else .ok (toLE 4 bytes.length ++ bytes)

/-- A config string waiting to be recorded, and whether it changed since the last frame. -/
structure PendingString where
  value : String
  dirty : Bool
  deriving Repr

/-- A recording in progress. -/
structure Recorder where
  config : DemoConfig
  /-- The bytes written so far. -/
  file : Bytes
  /-- Bytes collected for the next raw record. -/
  live : Buffer
  strings : IndexTable PendingString
  /-- The last frame recorded, quantized. -/
  last : Option Snapshot
  records : Nat
  bytesWritten : Nat

namespace Recorder

/-- Writes the metadata record and starts recording. -/
def start (metadata : DemoMetadata) (config : DemoConfig) : Except DemoError Recorder := do
  let head ← (writeMetadataRecord metadata config.metadataMaxSize 0).mapError .metadata
  return ⟨config, head, Buffer.empty config.maxMessageSize, .empty, none, 0,
    metadataRecordLen config.metadataMaxSize⟩

def putRecord (r : Recorder) (bytes : Bytes) : Except DemoError Recorder := do
  let record ← encodeRecord bytes r.config.maxMessageSize
  return { r with
    file := r.file ++ record
    records := r.records + 1
    bytesWritten := r.bytesWritten + 4 + bytes.length }

def recordMessage (r : Recorder) (msg : Bytes) (skip : Nat) : Except DemoError Recorder :=
  if msg.length < skip then .error (.invalidSkip skip msg.length) else r.putRecord (msg.drop skip)

def writeLive (r : Recorder) (bytes : Bytes) : Except StreamError Recorder := do
  return { r with live := ← r.live.write bytes }

/-- Records the live buffer, if it holds anything, and empties it. -/
def flushLive (r : Recorder) : Except DemoError Recorder :=
  if r.live.data.isEmpty then .ok r
  else do
    let r' ← r.putRecord r.live.data
    return { r' with live := r.live.clear }

/-- Records the live buffer once it is more than half full; says whether it did. -/
def safeWrite (r : Recorder) : Except DemoError (Bool × Recorder) :=
  if r.live.capacity / 2 < r.live.size then do return (true, ← r.flushLive) else .ok (false, r)

/-- Sets a config string, which the next frame carries. -/
def setConfig (r : Recorder) (index : Nat) (value : String) : Except DemoError Recorder :=
  let max := r.config.frame.maxConfigStrings
  if max ≤ index then .error (.codec (.frameEncode (.configStringIndex index max)))
  else .ok { r with strings := IndexTable.set r.strings index ⟨value, true⟩ }

/-- The kind of the next frame and whether it carries every config string: a delta against the
last frame, unless a bootstrap is asked for or there is no last frame. -/
def frameKind (last : Option Snapshot) (bootstrap : Bool) : MessageKind × Bool :=
  match last, bootstrap with
  | some b, false => (MessageKind.delta b, false)
  | _, _ => (MessageKind.bootstrap, true)

/-- The config strings a frame carries: every one, or those set since the last frame. -/
def frameStrings (strings : IndexTable PendingString) (everything : Bool) : List ConfigEntry :=
  (strings.entries.filter fun (_, s) => everything || s.dirty).map fun (i, s) => (i, s.value)

/-- The message of a frame of `quantized`, written into an empty frame buffer. -/
def frameMessage (r : Recorder) (schema : Schema) (quantized : Snapshot) (bootstrap : Bool) :
    EStateM.Result CodecError Buffer Nat :=
  let (kind, everything) := frameKind r.last bootstrap
  (encodeSnapshotMessage schema kind quantized (frameStrings r.strings everything) r.config.codec
    r.config.frame).run (Buffer.empty r.config.frame.maxMessageBytes)

/-- Records `current` as a frame, a bootstrap one when asked or when it is the first, and
returns its size. The live buffer is recorded first, also when the frame then fails. -/
def recordFrame (r : Recorder) (schema : Schema) (current : Snapshot) (bootstrap : Bool) :
    Except DemoError Nat × Recorder :=
  match r.flushLive with
  | .error e => (.error e, r)
  | .ok r =>
    let quantized := current.quantized schema
    match r.frameMessage schema quantized bootstrap with
    | .error e _ => (.error (.codec e), r)
    | .ok len out =>
      match r.putRecord out.data with
      | .error e => (.error e, r)
      | .ok r =>
        let clean := r.strings.map fun s => { s with dirty := false }
        (.ok len, { r with strings := clean, last := some quantized })

/-- Records `current` as a frame: a bootstrap if it is the first, else a delta. -/
def recordSnapshot (r : Recorder) (schema : Schema) (current : Snapshot) : Except DemoError Nat × Recorder :=
  r.recordFrame schema current r.last.isNone

def recordBootstrap (r : Recorder) (schema : Schema) (current : Snapshot) : Except DemoError Nat × Recorder :=
  r.recordFrame schema current true

/-- Ends the recording: records the live buffer and writes the end marker. -/
def stop (r : Recorder) : Except DemoError Recorder := do
  let r ← r.flushLive
  return { r with file := r.file ++ toLE 4 endOfStream, bytesWritten := r.bytesWritten + 4 }

end Recorder

end EntitySync
