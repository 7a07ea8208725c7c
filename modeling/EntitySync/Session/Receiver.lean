import EntitySync.Codec.Message
import EntitySync.Baseline.Store
import EntitySync.Session.Table
/-!
# Receiving snapshots

The receiver keeps the snapshots it reconstructed, any of which may be the baseline of a later
delta, and the config strings it was sent. A message must decode against the receiver's history
and be newer than the newest snapshot held. A bootstrap message replaces the config strings, any
other adds to them.

`update` is a message applied in place, step by step: the config strings are set before the
snapshot is stored, and the receiver comes back whatever the result. `apply` is the same change
taken whole or not at all.
-/

namespace EntitySync

/-- The receiving end of a session. -/
structure Receiver where
  schema : Schema
  limits : CodecLimits
  frameLimits : FrameLimits
  history : BaselineStore Snapshot
  config : IndexTable String

namespace Receiver

/-- A receiver with no history, keeping at least one snapshot. -/
def new (schema : Schema) (limits : CodecLimits) (frameLimits : FrameLimits) : Receiver :=
  ⟨schema, limits, frameLimits, BaselineStore.empty (max limits.baselineHistory 1), .empty⟩

/-- Refuses a snapshot at `tick` unless it is newer than the newest one held. -/
def checkNewer (r : Receiver) (tick : Tick) : Except CodecError Unit :=
  match r.history.latest with
  | some (latest, _) => if tick ≤ latest then .error (.staleMessage tick.toNat latest.toNat) else .ok ()
  | none => .ok ()

/-- Applies one message, returning the tick to acknowledge; on error nothing changes. -/
def apply (r : Receiver) (bytes : Bytes) : Except CodecError (Tick × Receiver) := do
  let m ← decodeSnapshotMessage r.schema bytes r.limits r.frameLimits r.history.get?
  let tick := m.snapshot.tick
  r.checkNewer tick
  let config := IndexTable.setAll (if m.header.flags.isBootstrap then .empty else r.config) m.configStrings
  let history ← (r.history.insert tick m.snapshot).mapError .baseline
  return (tick, { r with history := history, config := config })

/-- Applies one message in place: decodes it, refuses it when stale, sets the config strings it
carries and stores its snapshot. The receiver as the steps left it comes back with the tick to
acknowledge or the error. -/
def update (r : Receiver) (bytes : Bytes) : Receiver × Except CodecError Tick :=
  match decodeSnapshotMessage r.schema bytes r.limits r.frameLimits r.history.get? with
  | .error e => (r, .error e)
  | .ok m =>
    let tick := m.snapshot.tick
    match r.checkNewer tick with
    | .error e => (r, .error e)
    | .ok () =>
      let kept := if m.header.flags.isBootstrap then .empty else r.config
      let r := { r with config := IndexTable.setAll kept m.configStrings }
      match r.history.insert tick m.snapshot with
      | .error e => (r, .error (.baseline e))
      | .ok history => ({ r with history := history }, .ok tick)

/-- Applies each message in turn, dropping those that fail; returns the newest tick applied. -/
def poll (r : Receiver) (messages : List Bytes) : Option Tick × Receiver :=
  messages.foldl (fun (newest, r) m =>
    match r.update m with
    | (r, .ok tick) => (some tick, r)
    | (r, .error _) => (newest, r)) (none, r)

def latest? (r : Receiver) : Option Snapshot := r.history.latest.map Prod.snd

def configString? (r : Receiver) (index : Nat) : Option String := IndexTable.get? r.config index

end Receiver

end EntitySync
