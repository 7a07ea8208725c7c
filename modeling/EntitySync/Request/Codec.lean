import EntitySync.Request.Values
import EntitySync.Baseline.Ring
/-!
# Requests on states, snapshots and messages

Entity states and snapshots driven by steps, the baseline history driven by steps, and the
encoders and decoders of field blocks, entity entries, snapshot bodies and whole messages. An
encoder writes into an output buffer; when it fails, its error is answered with the buffer's
contents beside it, which shows that a failed encoding wrote nothing.
-/

namespace EntitySync

namespace Request

/-- An encoder's answer: the count it returns or its error, and the output it left. -/
def encodeAnswer (key : String) : EStateM.Result CodecError Buffer Nat → Json
  | .ok n o => .obj [(key, .nat n), ("out", hexJson o.data)]
  | .error e o => (codecJson e).extend [("out", hexJson o.data)]

def changeAnswer {σ ε : Type} (toJson : ε → Json) (st : σ) : Except ε σ → Json × σ
  | .ok st' => (okJson .null, st')
  | .error e => (toJson e, st)

def stateStep (schema : Schema) (st : EntityState) (s : Json) : Reading (Json × EntityState) := do
  match ← strField s "do" with
  | "set" => return changeAnswer codecJson st (st.set schema (← natField s "index") (← valueOf (← field s "value")))
  | "set_named" =>
    return changeAnswer codecJson st (st.setNamed schema (← strField s "name") (← valueOf (← field s "value")))
  | "get" => return (okJson (Json.opt valueJson (st.get? (← natField s "index"))), st)
  | "get_named" => return (okJson (Json.opt valueJson (st.getNamed? schema (← strField s "name"))), st)
  | "quantized" => return (okJson (stateJson (st.quantized schema)), st)
  | "values" => return (okJson (stateJson st), st)
  | other => refuse s!"unknown step {other}"

def stateRequest (j : Json) : Reading Json := do
  let schema ← schemaField j "schema"
  let st ← stateOf schema (← field j "state")
  let (steps, st) ← runSteps (stateStep schema) st (← arrField j "steps")
  return .obj [("steps", .arr steps), ("final", stateJson st)]

def tickField (j : Json) (k : String) : Reading Tick := do
  return UInt32.ofNat (← natBelow j k (2 ^ (32 : Nat)))

def historyEntryJson (p : Tick × Nat) : Json := .arr [.nat p.1.toNat, .nat p.2]

/-- One step on a baseline history of numbers. -/
def historyStep (st : BaselineRing Nat) (s : Json) : Reading (Json × BaselineRing Nat) := do
  match ← strField s "do" with
  | "insert" =>
    let t ← tickField s "tick"
    return changeAnswer baselineJson st (st.insert t (← natBelow s "value" (2 ^ (64 : Nat))))
  | "get" => return (okJson (Json.opt .nat (st.get? (← tickField s "tick"))), st)
  | "acknowledge" => return changeAnswer baselineJson st (st.acknowledge (← tickField s "tick"))
  | "agreed" => return (okJson (Json.opt historyEntryJson st.agreed), st)
  | "latest" => return (okJson (Json.opt historyEntryJson st.latest), st)
  | "latest_at_or_before" =>
    return (okJson (Json.opt historyEntryJson (st.latestAtOrBefore (← tickField s "tick"))), st)
  | "clear" => return (okJson .null, st.clear)
  | "iter" => return (okJson (.arr (st.iter.map historyEntryJson)), st)
  | "is_empty" => return (okJson (.bool (st.len == 0)), st)
  | other => refuse s!"unknown step {other}"

/-- Steps on a baseline history of `capacity` entries. -/
def historyRequest (j : Json) : Reading Json := do
  let cap ← natField j "capacity"
  if cap == 0 then refuse "capacity 0"
  let cap ← sizeGuard "capacity" cap
  let (steps, _) ← runSteps (fun st s => do
      let (r, st) ← historyStep st s
      return (r.extend [("len", .nat st.len)], st))
    (BaselineRing.new cap : BaselineRing Nat) (← arrField j "steps")
  return .obj [("capacity", .nat cap), ("steps", .arr steps)]

def snapshotStep (schema : Schema) (snap : Snapshot) (s : Json) : Reading (Json × Snapshot) := do
  match ← strField s "do" with
  | "insert" =>
    let slot ← slotOf (← field s "slot")
    let (prev, snap) := snap.insert slot (← stateOf schema (← field s "state"))
    return (okJson (Json.opt stateJson prev), snap)
  | "remove" =>
    let (prev, snap) := snap.erase (← slotOf (← field s "slot"))
    return (okJson (Json.opt stateJson prev), snap)
  | "get" => return (okJson (Json.opt stateJson (snap.get? (← slotOf (← field s "slot")))), snap)
  | "len" => return (okJson (.arr [.nat snap.size, .bool snap.entities.isEmpty]), snap)
  | "quantized" => return (okJson (snapshotJson (snap.quantized schema)), snap)
  | "slots" => return (okJson (.arr (snap.slots.map fun k => .nat k.toNat)), snap)
  | other => refuse s!"unknown step {other}"

def snapshotRequest (j : Json) : Reading Json := do
  let schema ← schemaField j "schema"
  let snap ← snapshotOf schema (← field j "snapshot")
  let (steps, snap) ← runSteps (snapshotStep schema) snap (← arrField j "steps")
  return .obj [("steps", .arr steps), ("final", snapshotJson snap)]

/-- A tick and a slot number in their domain types. -/
def tickSlotRequest (j : Json) : Reading Json := do
  let t ← natBelow j "tick" (2 ^ (32 : Nat))
  let o ← natBelow j "other_tick" (2 ^ (32 : Nat))
  let s := Slot.ofNat? (← natBelow j "slot" (2 ^ (16 : Nat)))
  let cmp := if t < o then "Less" else if t == o then "Equal" else "Greater"
  return .obj [("tick", .nat t), ("tick_display", .str (toString t)), ("tick_is_zero", .bool (t == 0)),
    ("tick_cmp", .str cmp), ("tick_max", .nat (max t o)),
    ("slot", Json.opt (fun k : Slot => .nat k.toNat) s),
    ("slot_display", Json.opt (fun k : Slot => .str (toString k.toNat)) s)]

/-- A state's field block written into an output buffer. -/
def fieldsWriteRequest (j : Json) : Reading Json := do
  let schema ← schemaField j "schema"
  let base ← stateFieldOpt schema j "baseline"
  let cur ← stateOf schema (← field j "current")
  let out ← outBuffer j
  return encodeAnswer "changed" ((encodeFields schema base cur).run out)

/-- A state read from a field block. -/
def fieldsReadRequest (j : Json) : Reading Json := do
  let schema ← schemaField j "schema"
  let base ← stateFieldOpt schema j "baseline"
  let (st, c) ← orCodec (decodeFields schema base (Cursor.init (← hexField j "data")))
  return .obj [("state", stateJson st), ("position", .nat c.pos)]

/-- An entity entry written into an output buffer. -/
def entityWriteRequest (j : Json) : Reading Json := do
  let schema ← schemaField j "schema"
  let base ← stateFieldOpt schema j "baseline"
  let cur ← stateFieldOpt schema j "current"
  let out ← outBuffer j
  return encodeAnswer "changed" ((encodeEntity schema base cur).run out)

def entityReadRequest (j : Json) : Reading Json := do
  let schema ← schemaField j "schema"
  let base ← stateFieldOpt schema j "baseline"
  let (st, c) ← orCodec (decodeEntity schema base (Cursor.init (← hexField j "data")))
  return .obj [("state", Json.opt stateJson st), ("position", .nat c.pos)]

/-- A snapshot body written into an output buffer, once or several times over. -/
def bodyWriteRequest (j : Json) : Reading Json := do
  let schema ← schemaField j "schema"
  let base ← snapshotFieldOpt schema j "baseline"
  let cur ← snapshotOf schema (← field j "current")
  let limits ← codecLimitsField j "limits"
  let out ← outBuffer j
  let scratch ← boolFieldOr j "scratch" false
  let result := match base, scratch with
    | some b, _ => (encodeBody schema b cur limits).run out
    | none, true => (encodeBody schema (Snapshot.empty 0) cur limits).run out
    | none, false => (encodeFullBody schema cur limits).run out
  let answer := encodeAnswer "written" result
  if scratch then
    let n := match opt j "repeat" with
      | some (.num (.int i)) => min (max i.toNat 1) 8
      | _ => 1
    let earlier := match result with
      | .ok _ _ => answer
      | .error e _ => codecJson e
    return answer.extend [("earlier", .arr (List.replicate (n - 1) earlier))]
  return answer

def bodyReadRequest (j : Json) : Reading Json := do
  let schema ← schemaField j "schema"
  let base ← snapshotFieldOpt schema j "baseline"
  let data ← hexField j "data"
  let tick ← tickField j "tick"
  let limits ← codecLimitsField j "limits"
  let snap ← orCodec (match base with
    | some b => decodeBody schema b data tick limits
    | none => decodeFullBody schema data tick limits)
  return .obj [("snapshot", snapshotJson snap)]

/-- The kind of message a request asks for. -/
def messageKindOf (schema : Schema) (j : Json) : Reading MessageKind := do
  match ← strField j "kind" with
  | "full" => pure .full
  | "bootstrap" => pure .bootstrap
  | "delta" =>
    match opt j "baseline" with
    | some b => pure (.delta (← snapshotOf schema b))
    | none => refuse "delta needs baseline"
  | other => refuse s!"bad kind {other}"

/-- A config string of a message, `[index, text]`, its index a 32-bit number. -/
def messageEntryOf (j : Json) : Reading ConfigEntry := do
  match ← asArr j with
  | [i, t] =>
    match i with
    | .num (.int n) => if 0 ≤ n ∧ n < 2 ^ (32 : Nat) then return (n.toNat, ← asStr t) else refuse "config index"
    | _ => refuse "config index"
  | _ => refuse "bad config entry"

/-- A snapshot message written into an output buffer. The kind and the config strings are read
first; `via` then names the encoder that writes a full message with no config strings
(`full_fn`) or a delta message with none (`delta_fn`), and any other `via` is ignored. -/
def messageWriteRequest (j : Json) : Reading Json := do
  let schema ← schemaField j "schema"
  let cur ← snapshotOf schema (← field j "current")
  let limits ← codecLimitsField j "limits"
  let wl ← frameLimitsField j "wire_limits" true
  let out ← outBuffer j
  let kind ← messageKindOf schema j
  let config ← (← arrFieldOr j "config").mapM messageEntryOf
  let (kind, config) ← match strFieldOpt j "via" with
    | some "full_fn" => pure (MessageKind.full, [])
    | some "delta_fn" => do
      match kind with
      | .delta b => pure (.delta b, [])
      | _ => refuse "delta_fn needs kind delta"
    | _ => pure (kind, config)
  return encodeAnswer "written" ((encodeSnapshotMessage schema kind cur config limits wl).run out)

def messageJson (m : DecodedMessage) : Json :=
  .obj [("header", headerJson m.header), ("config_strings", .arr (m.configStrings.map entryJson)),
    ("snapshot", snapshotJson m.snapshot)]

/-- A snapshot message read from bytes, its baseline looked up among the given snapshots. -/
def messageReadRequest (j : Json) : Reading Json := do
  let schema ← schemaField j "schema"
  let data ← hexField j "data"
  let limits ← codecLimitsField j "limits"
  let wl ← frameLimitsField j "wire_limits" false
  let bs ← (← arrFieldOr j "baselines").mapM (snapshotOf schema)
  let lookup ← match opt j "baseline" with
    | some b => do
      let b ← snapshotOf schema b
      pure fun (_ : Tick) => some b
    | none => pure fun (t : Tick) => bs.find? (·.tick == t)
  return messageJson (← orCodec (decodeSnapshotMessage schema data limits wl lookup))

end Request

end EntitySync
