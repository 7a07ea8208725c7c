import EntitySync.Codec.Message
import EntitySync.Baseline.Store
import EntitySync.Session.Table
/-!
# Sending snapshots

The sender keeps the snapshots it sent, quantized, as candidate baselines, and the config
strings it must deliver. Each snapshot is encoded against the baseline the receiver last
acknowledged, or in full while there is none. A config string travels in every message until a
message that carried it is acknowledged, and in every full message; setting it again, or
forgetting the history, starts that over.
-/

namespace EntitySync

/-- A config string on the sending side, with the tick of the first message that carried its
current value. -/
structure OutgoingString where
  value : String
  firstSent : Option Tick
  deriving Repr

/-- Whether a message carrying the string has been acknowledged. -/
def OutgoingString.acknowledged (s : OutgoingString) (agreed : Option Tick) : Bool :=
  match s.firstSent, agreed with
  | some sent, some tick => sent ≤ tick
  | _, _ => false

/-- The sending end of a session. -/
structure Sender where
  schema : Schema
  limits : CodecLimits
  frameLimits : FrameLimits
  history : BaselineStore Snapshot
  config : IndexTable OutgoingString

namespace Sender

/-- A sender with no history, keeping at least one baseline. -/
def new (schema : Schema) (limits : CodecLimits) (frameLimits : FrameLimits) : Sender :=
  ⟨schema, limits, frameLimits, BaselineStore.empty (max limits.baselineHistory 1), .empty⟩

/-- Sets a config string; its index must lie inside the table. -/
def setConfig (s : Sender) (index : Nat) (value : String) : Except CodecError Sender :=
  if s.frameLimits.maxConfigStrings ≤ index then
    .error (.frameEncode (.configStringIndex index s.frameLimits.maxConfigStrings))
  else .ok { s with config := IndexTable.set s.config index ⟨value, none⟩ }

def configString? (s : Sender) (index : Nat) : Option String :=
  (IndexTable.get? s.config index).map (·.value)

/-- The tick of the baseline new messages are encoded against. -/
def agreedTick (s : Sender) : Option Tick := s.history.agreed.map Prod.fst

/-- The message for `current`, encoded against the agreed baseline; the quantized snapshot
becomes a candidate baseline. Ticks must be nonzero and strictly increase. -/
def encode (s : Sender) (current : Snapshot) : Except CodecError (Bytes × Sender) := do
  let quantized := current.quantized s.schema
  let agreed := s.history.agreed
  let kind := match agreed with
    | some (_, b) => MessageKind.delta b
    | none => MessageKind.full
  let config := (s.config.entries.filter fun (_, e) =>
      agreed.isNone || !e.acknowledged (agreed.map Prod.fst)).map fun (i, e) => (i, e.value)
  let out ← match (encodeSnapshotMessage s.schema kind quantized config s.limits
      s.frameLimits).run (Buffer.empty s.frameLimits.maxMessageBytes) with
    | .ok _ out => pure out
    | .error e _ => throw e
  let history ← (s.history.insert quantized.tick quantized).mapError .baseline
  let stamped := s.config.map fun e => { e with firstSent := e.firstSent.orElse fun _ => some current.tick }
  return (out.data, { s with history := history, config := stamped })

def acknowledge (s : Sender) (tick : Tick) : Except CodecError Sender := do
  return { s with history := ← (s.history.acknowledge tick).mapError .baseline }

/-- Forgets the history, so that the next message is full and carries every config string. -/
def reset (s : Sender) : Sender :=
  { s with history := s.history.clear, config := s.config.map fun e => { e with firstSent := none } }

end Sender

end EntitySync
