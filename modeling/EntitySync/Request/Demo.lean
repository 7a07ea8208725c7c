import EntitySync.Request.Codec
import EntitySync.Demo.Recorder
import EntitySync.Demo.Playback
import EntitySync.Inspect.Text
import EntitySync.Inspect.Json
import EntitySync.Inspect.Assignment
/-!
# Requests on recordings

Metadata driven by steps, metadata records written and read, a recording made by steps, and a
recording read back record by record or frame by frame, inspected, or given new metadata.
-/

namespace EntitySync

namespace Request

/-- Recording settings: a preset, with its sizes and nested limits overridden; a nested limits
object without a preset of its own overrides the preset's limits field by field. A preset that is
not a string counts as absent. -/
def demoConfigOf (j : Json) : Reading DemoConfig := do
  let base ← match strFieldOpt j "preset" with
    | none => pure DemoConfig.standard
    | some "default" => pure DemoConfig.standard
    | some "testing" => pure DemoConfig.testing
    | some other => refuse s!"unknown preset {other}"
  let codec ← match opt j "codec" with
    | some l =>
      let preset ← presetOf l CodecLimits.standard CodecLimits.testing CodecLimits.unlimited
      codecLimitsOver (preset.getD base.codec) l
    | none => pure base.codec
  let frame ← match opt j "wire" with
    | some l =>
      let preset ← presetOf l FrameLimits.standard FrameLimits.testing FrameLimits.unlimited
      frameLimitsOver (preset.getD base.frame) l
    | none => pure base.frame
  return ⟨← sizeFieldOr j "max_message_size" base.maxMessageSize,
    ← sizeFieldOr j "metadata_max_size" base.metadataMaxSize, codec, frame⟩

/-- An optional recording-settings field; the standard settings when absent. -/
def demoConfigField (j : Json) : Reading DemoConfig :=
  match opt j "config" with
  | some c => demoConfigOf c
  | none => pure DemoConfig.standard

def pairsOf (j : Json) : Reading (List (String × String)) := do
  (← asArr j).mapM fun p => do
    match ← asArr p with
    | [k, v] => return (← asStr k, ← asStr v)
    | _ => refuse "bad pair"

def pairsJson (ps : List (String × String)) : Json := .arr (ps.map fun (k, v) => .arr [.str k, .str v])

/-- Metadata set from pairs in turn; a refused entry is the answer. -/
def metadataOf (j : Json) : Reading DemoMetadata := do
  (← pairsOf j).foldlM (fun m (k, v) => match m.set k v with
    | .ok m => pure m
    | .error e => answerNow (metadataJson e)) DemoMetadata.empty

def metadataStep (m : DemoMetadata) (s : Json) : Reading (Json × DemoMetadata) := do
  match ← strField s "do" with
  | "set" => return changeAnswer metadataJson m (m.set (← strField s "key") (← strField s "value"))
  | "get" => return (okJson (Json.opt .str (m.get? (← strField s "key"))), m)
  | "remove" =>
    let (v, m) := m.remove (← strField s "key")
    return (okJson (Json.opt .str v), m)
  | "entries" => return (okJson (pairsJson m.entries), m)
  | "len" => return (okJson (.arr [.nat m.size, .bool m.entries.isEmpty, .nat m.encodedLen]), m)
  | "write" =>
    let size ← sizeField s "max_size"
    let offset ← natBelow s "record_offset" (2 ^ (64 : Nat))
    match writeMetadataRecord m size offset with
    | .ok bytes => return (okJson (hexJson bytes), m)
    | .error e => return (demoJson (.metadata e), m)
  | "apply_assignments" =>
    let (m', applied) := applyAssignments m (← pairsOf ((opt s "assignments").getD (.arr [])))
    match applied with
    | .ok () => return (okJson .null, m')
    | .error e => return (metadataJson e, m')
  | other => refuse s!"unknown step {other}"

def metadataRequest (j : Json) : Reading Json := do
  let (steps, _) ← runSteps metadataStep DemoMetadata.empty (← arrField j "steps")
  return .obj [("steps", .arr steps)]

def metadataReadRequest (j : Json) : Reading Json := do
  let data ← hexField j "data"
  let limit ← sizeField j "max_size_limit"
  let offset ← natBelow j "record_offset" (2 ^ (64 : Nat))
  match (readMetadataRecord limit offset).run (Source.init data) with
  | (.ok (m, size), src) => return .obj [("entries", pairsJson m.entries), ("max_size", .nat size),
      ("position", .nat src.pos)]
  | (.error e, _) => return demoJson e

def recorderStep (schema : Option Schema) (r : Recorder) (s : Json) : Reading (Json × Recorder) := do
  let snapshotArg := fun (_ : Unit) => do
    let some schema := schema | refuse "missing field schema"
    pure (schema, ← snapshotOf schema (← field s "snapshot"))
  let lift := fun (x : Except DemoError Recorder) => match x with
    | .ok r' => (okJson .null, r')
    | .error e => (demoJson e, r)
  match ← strField s "do" with
  | "record_message" => return lift (r.recordMessage (← hexField s "data") (← natField s "skip"))
  | "write_live" =>
    match r.writeLive (← hexField s "data") with
    | .ok r' => return (okJson .null, r')
    | .error e => return (streamJson e, r)
  | "safe_write" =>
    match r.safeWrite with
    | .ok (b, r') => return (okJson (.bool b), r')
    | .error e => return (demoJson e, r)
  | "set_config" =>
    let index ← natBelow s "index" (2 ^ (32 : Nat))
    return lift (r.setConfig index (← strField s "value"))
  | "snapshot" =>
    let (schema, snap) ← snapshotArg ()
    match r.recordSnapshot schema snap with
    | (.ok n, r') => return (okJson (.nat n), r')
    | (.error e, r') => return (demoJson e, r')
  | "bootstrap" =>
    let (schema, snap) ← snapshotArg ()
    match r.recordBootstrap schema snap with
    | (.ok n, r') => return (okJson (.nat n), r')
    | (.error e, r') => return (demoJson e, r')
  | other => refuse s!"unknown step {other}"

def recorderCounters (r : Recorder) : List (String × Json) :=
  [("records", .nat r.records), ("bytes_written", .nat r.bytesWritten), ("live", .nat r.live.size)]

/-- Steps on a recorder until a stop step or the last step; the recording is then stopped. -/
def recorderSteps (schema : Option Schema) : Recorder → List Json → Reading (List Json × Recorder × Bool)
  | r, [] => pure ([], r, false)
  | r, s :: rest => do
    if (← strField s "do") == "stop" then
      if !rest.isEmpty then refuse "step after stop"
      match r.stop with
      | .ok r' => return ([okJson .null], r', true)
      | .error e => return ([demoJson e], r, true)
    let (a, r) ← recorderStep schema r s
    let answer := a.extend (recorderCounters r)
    let (answers, r, stopped) ← recorderSteps schema r rest
    return (answer :: answers, r, stopped)

/-- The frames of a playback, at most `fuel` of them, after `acc`; the end is `"eos"`, `"limit"`
or the error that stopped it. -/
def playFrames (bound : Nat) : Nat → Playback → List Json → List Json × Json × Playback
  | 0, pb, acc => (acc.reverse, .str "limit", pb)
  | fuel + 1, pb, acc =>
    match pb.nextFrame with
    | (.ok (some snap), pb) =>
      let strings := pb.strings.entries.filter (·.1 < bound)
      playFrames bound fuel pb (.obj [("snapshot", snapshotJson snap),
        ("config_strings", .arr (strings.map fun (i, v) => .arr [.nat i, .str v]))] :: acc)
    | (.ok none, pb) => (acc.reverse, .str "eos", pb)
    | (.error e, pb) => (acc.reverse, demoJson e, pb)

/-- The playback of a recording, frame by frame. -/
def playbackJson (data : Bytes) (schema : Schema) (config : DemoConfig) (maxFrames : Nat)
    (intoPlayer : Bool) : Json :=
  match Playback.load data schema config with
  | .error e => demoJson e
  | .ok pb =>
    let bound := min config.frame.maxConfigStrings 4096
    let (frames, stop, pb) := playFrames bound maxFrames pb []
    .obj ([("metadata", pairsJson pb.player.metadata.entries), ("frames", .arr frames), ("end", stop),
      ("current_tick", Json.opt (fun s : Snapshot => .nat s.tick.toNat) pb.state)] ++
      (if intoPlayer then [("player_records", .nat pb.player.records),
        ("unread_tail", .nat pb.player.source.rest.length)] else []))

/-- A recording made by steps, and optionally played back. -/
def recordRequest (j : Json) : Reading Json := do
  let config ← demoConfigField j
  guardFrameLimits config.frame
  let metadata ← match opt j "metadata" with
    | some m => metadataOf m
    | none => pure DemoMetadata.empty
  let schema ← match opt j "schema" with
    | some s => some <$> schemaOf s
    | none => pure none
  match Recorder.start metadata config with
  | .error e => return demoJson e
  | .ok r =>
    let (steps, r, stopped) ← recorderSteps schema r (← arrField j "steps")
    let file := if stopped then r.file else match r.stop with
      | .ok r => r.file
      | .error _ => r.file
    let answer := Json.obj [("steps", .arr steps), ("file", hexJson file), ("file_len", .nat file.length)]
    if ← boolFieldOr j "playback" false then
      let some schema := schema | refuse "missing field schema"
      return answer.extend [("playback", playbackJson file schema config 1000 false)]
    return answer

/-- Reads records one by one, at most `fuel` reads, stopping after an error or a second end. -/
def playReads : Nat → Bool → Player → Buffer → List Json → List Json × Player × Buffer
  | 0, _, p, msg, acc => (acc.reverse, p, msg)
  | fuel + 1, endSeen, p, msg, acc =>
    match p.readInto msg with
    | (.ok .record, p, msg) =>
      playReads fuel endSeen p msg (.obj [("record", hexJson msg.data), ("readcount", .nat msg.readPos)] :: acc)
    | (.ok .endOfStream, p, msg) =>
      if endSeen then ((Json.str "eos" :: acc).reverse, p, msg)
      else playReads fuel true p msg (.str "eos" :: acc)
    | (.error e, p, msg) => ((demoJson e :: acc).reverse, p, msg)

def playRequest (j : Json) : Reading Json := do
  let data ← hexField j "data"
  let config ← demoConfigField j
  let msgMax ← natFieldOr j "msg_max" config.maxMessageSize
  let maxReads ← natFieldOr j "max_reads" 64
  match Player.load data config with
  | .error e => return demoJson e
  | .ok p =>
    let msgMax ← sizeGuard "msg_max" msgMax
    let (reads, p, msg) := playReads maxReads false p (Buffer.empty msgMax) []
    return .obj [("metadata", pairsJson p.metadata.entries), ("metadata_max_size", .nat p.metadataMaxSize),
      ("reads", .arr reads), ("records", .nat p.records), ("msg_cursize", .nat msg.size)]

def playbackRequest (j : Json) : Reading Json := do
  let data ← hexField j "data"
  let config ← demoConfigField j
  let schema ← schemaField j "schema"
  return playbackJson data schema config (← natFieldOr j "max_frames" 1000) (← boolFieldOr j "into_player" false)

def hashField (j : Json) : Reading (Option Nat) :=
  match opt j "schema_hash" with
  | some v => do
    let n ← asNat v
    if 2 ^ (64 : Nat) ≤ n then refuse "schema_hash out of range"
    return some n
  | none => pure none

/-- The report of a recording, as JSON and as text. -/
def inspectRequest (j : Json) : Reading Json := do
  let data ← hexField j "data"
  let config ← demoConfigField j
  match inspectDemo data config (← hashField j) with
  | .ok r => return .obj [("report", r.toJson), ("text", .str r.render)]
  | .error e => return demoJson e

def inspectFrameRequest (j : Json) : Reading Json := do
  let data ← hexField j "data"
  let limits ← frameLimitsField j "limits" false
  return .obj [("frame", Json.opt FrameReport.toJson (inspectFrame data limits (← hashField j)))]

/-- An assignment argument split into key and value. -/
def assignmentRequest (j : Json) : Reading Json := do
  match parseAssignment (← strField j "arg") with
  | .ok (k, v) => return .obj [("key", .str k), ("value", .str v)]
  | .error msg => return .obj [("error", .str "ParseAssignment"), ("message", .str msg)]

/-- A recording given new metadata, and the metadata read back. -/
def replaceMetadataRequest (j : Json) : Reading Json := do
  let data ← hexField j "data"
  let config ← demoConfigField j
  let m ← metadataOf ((opt j "metadata").getD (.arr []))
  let (result, file) := match replaceMetadata data m config with
    | .ok file => (okJson .null, file)
    | .error e => (demoJson e, data)
  let readBack := match readMetadata file config with
    | .ok m => pairsJson m.entries
    | .error e => demoJson e
  return result.extend [("file", hexJson file), ("read_back", readBack)]

end Request

end EntitySync
