import EntitySync.Demo.Player
import EntitySync.Codec.Message
import EntitySync.Session.Table
/-!
# Playing snapshot frames

Playback reads the records of a recording as snapshot messages, each decoded against the frame
before it (whatever baseline tick the message names), and keeps the config strings the frames
carried: a bootstrap frame replaces them, any other adds to them. A record that does not decode
ends playback with its error.
-/

namespace EntitySync

/-- A recording being played frame by frame. -/
structure Playback where
  player : Player
  schema : Schema
  config : DemoConfig
  buffer : Buffer
  state : Option Snapshot
  strings : IndexTable String

namespace Playback

def load (data : Bytes) (schema : Schema) (config : DemoConfig) : Except DemoError Playback := do
  let player ← Player.load data config
  return ⟨player, schema, config, Buffer.empty config.maxMessageSize, none, .empty⟩

/-- Decodes the next frame, or finds the end of the recording. -/
def nextFrame (pb : Playback) : Except DemoError (Option Snapshot) × Playback :=
  let (r, player, buffer) := pb.player.readInto pb.buffer
  let pb := { pb with player := player, buffer := buffer }
  match r with
  | .error e => (.error e, pb)
  | .ok .endOfStream => (.ok none, pb)
  | .ok .record =>
    match decodeSnapshotMessage pb.schema buffer.data pb.config.codec pb.config.frame (fun _ => pb.state) with
    | .error e => (.error (.codec e), pb)
    | .ok m =>
      let strings := IndexTable.setAll (if m.header.flags.isBootstrap then .empty else pb.strings) m.configStrings
      (.ok (some m.snapshot), { pb with state := some m.snapshot, strings := strings })

def configString? (pb : Playback) (index : Nat) : Option String := IndexTable.get? pb.strings index

end Playback

def readMetadata (file : Bytes) (config : DemoConfig) : Except DemoError DemoMetadata :=
  ((readMetadataRecord config.metadataMaxSize 0).run (Source.init file)).1.map Prod.fst

/-- The recording with its metadata replaced; the block keeps its size, and the records after it
are kept as they are. -/
def replaceMetadata (file : Bytes) (m : DemoMetadata) (config : DemoConfig) : Except DemoError Bytes := do
  let (r, rest) := (readMetadataRecord config.metadataMaxSize 0).run (Source.init file)
  let (_, maxSize) ← r
  let head ← (writeMetadataRecord m maxSize 0).mapError .metadata
  return head ++ rest.rest

end EntitySync
