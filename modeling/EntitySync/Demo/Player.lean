import EntitySync.Demo.Metadata
import EntitySync.Demo.Config
import EntitySync.Stream.Buffer
/-!
# Reading records

A player reads the metadata record, then one record at a time into a message buffer, its read
position at the start. A length beyond the buffer's capacity is fatal; a recording that runs out
before its end marker is reported as cut short after the records read so far. Once the end
marker is read, every further read reports the end again.
-/

namespace EntitySync

/-- What a read of a record found. -/
inductive Fetched where
  | record
  | endOfStream
  deriving DecidableEq, Repr

/-- A recording being read. -/
structure Player where
  source : Source
  metadata : DemoMetadata
  metadataMaxSize : Nat
  records : Nat
  finished : Bool

namespace Player

/-- Reads the metadata record of a recording. -/
def load (data : Bytes) (config : DemoConfig) : Except DemoError Player :=
  match (readMetadataRecord config.metadataMaxSize 0).run (Source.init data) with
  | (.ok (m, size), src) => .ok ⟨src, m, size, 0, false⟩
  | (.error e, _) => .error e

/-- A file failure while reading records; running out means the recording was cut short. -/
def cutShort (p : Player) : FileError → DemoError
  | .unexpectedEnd => .truncated p.records
  | e => .file e

def readInto (p : Player) (msg : Buffer) : Except DemoError Fetched × Player × Buffer :=
  if p.finished then (.ok .endOfStream, p, msg)
  else
    let (r, src) := p.source.readWord 4
    let p := { p with source := src }
    match r with
    | .error e => (.error (p.cutShort e), p, msg)
    | .ok length =>
      if length = endOfStream then (.ok .endOfStream, { p with finished := true }, msg)
      else if msg.capacity < length then (.error (.corrupt length msg.capacity), p, msg)
      else
        let (r, src) := p.source.readExact length
        let p := { p with source := src }
        match r with
        | .ok bytes => (.ok .record, { p with records := p.records + 1 }, ⟨bytes, msg.capacity, 0⟩)
        | .error e => (.error (p.cutShort e), p, msg.clear)

end Player

end EntitySync
