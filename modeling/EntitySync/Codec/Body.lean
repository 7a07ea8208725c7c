import EntitySync.Codec.Fields
import EntitySync.Codec.Limits
import EntitySync.Snapshot.Basic
/-!
# Snapshot bodies

A snapshot body carries the change from a baseline snapshot to the current one: the entry count
as a varint, then an entry for each slot that changed, in strictly ascending slot order. An
entry is the slot as a varint and the entity entry: removed, or present with its field block
against the baseline state. A slot present in both snapshots with no changed leaf has no entry.
A full snapshot is the change from the empty snapshot.

Encoding stages the entries in a buffer as large as the output's free room, so a body that does
not fit leaves the output as it was. Decoding starts from the baseline's entities, checks each
slot (nonzero, 16-bit, below the slot bound, above the previous one), and refuses bytes after
the last entry.
-/

namespace EntitySync

/-- The slots of two ascending entity lists, merged in ascending order, each with its state in
either list. -/
def mergeSlots : List (Slot × EntityState) → List (Slot × EntityState) →
    List (Slot × Option EntityState × Option EntityState)
  | [], [] => []
  | (k, v) :: bs, [] => (k, some v, none) :: mergeSlots bs []
  | [], (k, v) :: cs => (k, none, some v) :: mergeSlots [] cs
  | (k, v) :: bs, (k', v') :: cs =>
    if k.toNat < k'.toNat then (k, some v, none) :: mergeSlots bs ((k', v') :: cs)
    else if k'.toNat < k.toNat then (k', none, some v') :: mergeSlots ((k, v) :: bs) cs
    else (k, some v, some v') :: mergeSlots bs cs
termination_by bs cs => bs.length + cs.length

/-- Stages the entries of the merged slots in the output; the entry count rides along. -/
def stageEntries (schema : Schema) (limits : CodecLimits) :
    List (Slot × Option EntityState × Option EntityState) → Nat → WriteM CodecError Nat
  | [], count => pure count
  | (slot, base, cur) :: rest, count => do
    if limits.maxSlots ≤ slot.toNat then
      throw (.encodeLimitExceeded .slots limits.maxSlots slot.toNat)
    match cur with
    | none =>
      (WriteM.writeVarint slot.toNat).adaptExcept .stream
      (WriteM.write [0]).adaptExcept .stream
      stageEntries schema limits rest (count + 1)
    | some c =>
      let (w, changed) ← liftExcept (composeFields schema base c)
      if base.isSome ∧ changed = 0 then stageEntries schema limits rest count
      else
        (WriteM.writeVarint slot.toNat).adaptExcept .stream
        (WriteM.write [1]).adaptExcept .stream
        let _ ← w.finishInto.adaptExcept .stream
        stageEntries schema limits rest (count + 1)

/-- Appends the body of the change from `baseline` to `current` to the output, all of it or
nothing; returns its size. The entries are staged first in a buffer as large as the output's
free room, so that the count can go in front of them. -/
def encodeBody (schema : Schema) (baseline current : Snapshot) (limits : CodecLimits) :
    WriteM CodecError Nat := do
  let out ← get
  let staging := stageEntries schema limits (mergeSlots baseline.entities current.entities) 0
  match staging.run (Buffer.empty out.free) with
  | .error e _ => throw e
  | .ok count staged =>
    if limits.maxEntries < count then throw (.encodeLimitExceeded .entries limits.maxEntries count)
    let total := varintLen count + staged.size
    (WriteM.ensureFree total).adaptExcept .stream
    (WriteM.writeVarint count).adaptExcept .stream
    (WriteM.write staged.data).adaptExcept .stream
    return total

/-- Appends the body of a full snapshot: the change from the empty snapshot. -/
def encodeFullBody (schema : Schema) (current : Snapshot) (limits : CodecLimits) :
    WriteM CodecError Nat :=
  encodeBody schema (Snapshot.empty 0) current limits

/-- Reads `count` entries at `c` on top of `baseline`, into `acc`; `previous` is the slot of the
last entry read. -/
def decodeBodyEntries (schema : Schema) (baseline : Snapshot) (limits : CodecLimits) :
    Nat → Option Nat → Snapshot → Cursor → Except CodecError (Snapshot × Cursor)
  | 0, _, acc, c => .ok (acc, c)
  | count + 1, previous, acc, c => do
    let (raw, c) ← c.readVarU32.mapError .stream
    let some slot := Slot.ofNat? raw | throw (.invalidSlot raw)
    if limits.maxSlots ≤ slot.toNat then throw (.limitExceeded .slots limits.maxSlots slot.toNat)
    if let some p := previous then
      if slot.toNat ≤ p then throw (.invalidEntityOrder p slot.toNat)
    let (st, c) ← decodeEntity schema (baseline.get? slot) c
    let acc ← match st with
      | some s => pure (acc.insert slot s).2
      | none => match acc.erase slot with
        | (some _, acc) => pure acc
        | (none, _) => throw (.entityNotFound slot.toNat)
    decodeBodyEntries schema baseline limits count (some slot.toNat) acc c

/-- Applies a body to `baseline`, giving the snapshot at `tick`. -/
def decodeBody (schema : Schema) (baseline : Snapshot) (body : Bytes) (tick : Tick)
    (limits : CodecLimits) : Except CodecError Snapshot := do
  let (count, c) ← (Cursor.init body).readVarU32.mapError .stream
  if limits.maxEntries < count then throw (.limitExceeded .entries limits.maxEntries count)
  let (snap, c) ← decodeBodyEntries schema baseline limits count none { baseline with tick := tick } c
  if !c.rest.isEmpty then throw (.trailingSectionData .entities c.remaining)
  return snap

/-- Reads the body of a full snapshot: the change from the empty snapshot. -/
def decodeFullBody (schema : Schema) (body : Bytes) (tick : Tick) (limits : CodecLimits) :
    Except CodecError Snapshot :=
  decodeBody schema (Snapshot.empty 0) body tick limits

end EntitySync
