import EntitySync.Codec.Body
import EntitySync.Frame.Message
import EntitySync.Frame.ConfigStrings
import EntitySync.Schema.Fingerprint
/-!
# Snapshot messages

A snapshot message is a frame whose header carries the schema fingerprint and the ticks, with an
optional config-string section and the entities section holding a snapshot body. A full or
bootstrap message carries the change from the empty snapshot; a delta message carries the change
from a baseline with a nonzero tick older than the current one. Tick 0 is never encoded.

Encoding builds each section in a buffer of the largest section size, checks the whole message
against the largest message size, and only then writes the frame. Decoding checks the frame, the
fingerprint and the config strings, looks up the baseline a delta names and checks that the
lookup returned that very tick, then applies the body; a message without an entities section
reads as one with no entries.
-/

namespace EntitySync

/-- What a message holds. -/
inductive MessageKind where
  | full
  | bootstrap
  | delta (baseline : Snapshot)

/-- A decoded snapshot message: the header, the config strings it carried and the snapshot. -/
structure DecodedMessage where
  header : Header
  configStrings : List ConfigEntry
  snapshot : Snapshot

/-- The header of a message of the given kind, with the payload length left at zero. -/
def MessageKind.header (kind : MessageKind) (hash : UInt64) (tick : Tick) : Header :=
  match kind with
  | .full => ⟨1, Flags.full, hash, tick, 0, 0⟩
  | .bootstrap => ⟨1, Flags.bootstrap, hash, tick, 0, 0⟩
  | .delta b => ⟨1, Flags.delta, hash, tick, b.tick, 0⟩

/-- The snapshot a message of this kind carries the change from: the empty snapshot for a full
or bootstrap message, and for a delta its baseline, which must have a nonzero tick older than
`tick`. -/
def MessageKind.baselineFor (kind : MessageKind) (tick : Tick) : Except CodecError Snapshot :=
  match kind with
  | .delta b =>
    if b.tick = 0 ∨ tick ≤ b.tick then .error (.invalidBaseline tick.toNat b.tick.toNat)
    else .ok b
  | _ => .ok (Snapshot.empty 0)

/-- The body of the config-string section, written in a buffer of the largest section size;
it stays empty when there are no config strings. -/
def configSectionBody (config : List ConfigEntry) (frameLimits : FrameLimits) :
    Except CodecError Bytes :=
  if config.isEmpty then .ok []
  else match encodeConfigStrings config frameLimits (Buffer.empty frameLimits.maxSectionLen) with
    | (b, .ok ()) => .ok b.data
    | (_, .error e) => .error (.frameEncode e)

/-- The body of the entities section, written in a buffer of the largest section size. -/
def entitiesSectionBody (schema : Schema) (baseline current : Snapshot) (limits : CodecLimits)
    (frameLimits : FrameLimits) : Except CodecError Bytes :=
  match (encodeBody schema baseline current limits).run (Buffer.empty frameLimits.maxSectionLen) with
  | .ok _ b => .ok b.data
  | .error e _ => .error e

/-- The sections of a message: the config strings when there are any, then the entities. -/
def messageSections (config : List ConfigEntry) (configBody entities : Bytes) : List Section :=
  (if config.isEmpty then [] else [⟨.configStrings, configBody⟩]) ++ [⟨.entities, entities⟩]

/-- The header and the sections of the message of `current`, or why it cannot be encoded:
everything the encoder checks and builds before it writes. The header's payload length is left
at zero; writing the frame fills it in. -/
def messageFrame (schema : Schema) (kind : MessageKind) (current : Snapshot)
    (config : List ConfigEntry) (limits : CodecLimits) (frameLimits : FrameLimits) :
    Except CodecError (Header × List Section) := do
  if current.tick = 0 then throw .zeroTick
  let baseline ← kind.baselineFor current.tick
  let configBody ← configSectionBody config frameLimits
  let entities ← entitiesSectionBody schema baseline current limits frameLimits
  let sections := messageSections config configBody entities
  let total := headerSize + (sections.map fun s => sectionLen s.body.length).sum
  if frameLimits.maxMessageBytes < total then
    throw (.encodeLimitExceeded .messageBytes frameLimits.maxMessageBytes total)
  return (kind.header schema.fingerprint current.tick, sections)

/-- Appends the message of `current` to the output and returns its size. Everything is checked
and built before the output is touched; only the frame is written into it. -/
def encodeSnapshotMessage (schema : Schema) (kind : MessageKind) (current : Snapshot)
    (config : List ConfigEntry) (limits : CodecLimits) (frameLimits : FrameLimits) :
    WriteM CodecError Nat := do
  let (header, sections) ← liftExcept (messageFrame schema kind current config limits frameLimits)
  (encodeFrame header sections).adaptExcept .frameEncode

/-- The config strings a frame carries: those of its config-string section, or none. -/
def Frame.configStrings (frame : Frame) (frameLimits : FrameLimits) :
    Except CodecError (List ConfigEntry) :=
  match frame.body? .configStrings with
  | some body => (decodeConfigStrings body frameLimits).mapError .frame
  | none => .ok []

/-- The baseline a message with this header is the change from: for a delta, the snapshot
`lookup` finds for the header's baseline tick, which must carry that very tick; otherwise the
empty snapshot. -/
def Header.lookupBaseline (header : Header) (lookup : Tick → Option Snapshot) :
    Except CodecError Snapshot :=
  if header.flags.isDelta then
    match lookup header.baselineTick with
    | none => .error (.baselineNotFound header.baselineTick.toNat)
    | some found =>
      if found.tick != header.baselineTick then
        .error (.baselineTickMismatch header.baselineTick.toNat found.tick.toNat)
      else .ok found
  else .ok (Snapshot.empty 0)

/-- Decodes a snapshot message; `lookup` finds the baseline a delta message names. -/
def decodeSnapshotMessage (schema : Schema) (bytes : Bytes) (limits : CodecLimits)
    (frameLimits : FrameLimits) (lookup : Tick → Option Snapshot) :
    Except CodecError DecodedMessage := do
  let frame ← (decodeFrame bytes frameLimits).mapError .frame
  let header := frame.header
  let expected := schema.fingerprint
  if header.schemaHash != expected then
    throw (.schemaMismatch expected.toNat header.schemaHash.toNat)
  let config ← frame.configStrings frameLimits
  let base ← header.lookupBaseline lookup
  let body := (frame.body? .entities).getD [0]
  let snapshot ← decodeBody schema base body header.tick limits
  return ⟨header, config, snapshot⟩

end EntitySync
