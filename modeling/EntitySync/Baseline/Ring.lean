import EntitySync.Baseline.Store
/-!
# Baseline rings

The baseline store as it is laid out in memory: a fixed array of slots used as a ring. `head` is
the slot of the oldest entry and `len` the number of entries, which fill the `len` slots from
`head` on, wrapping at the end of the array. Inserting into a ring with a free slot fills the
slot after the newest entry; inserting into a full ring overwrites the oldest entry and moves the
head on, so the new entry is the newest at once. The last tick inserted and the agreed tick are
kept beside the slots, and every lookup walks the ring from the head, oldest first.

`BaselineStore` is the same store seen as a list; the two answer alike on every run.
-/

namespace EntitySync

/-- A fixed-capacity ring of values by tick. -/
structure BaselineRing (α : Type) where
  slots : Array (Option (Tick × α))
  head : Nat
  len : Nat
  lastTick : Option Tick
  agreedTick : Option Tick

namespace BaselineRing

variable {α : Type}

def new (capacity : Nat) : BaselineRing α := ⟨Array.replicate capacity none, 0, 0, none, none⟩

def capacity (r : BaselineRing α) : Nat := r.slots.size

/-- The entries from oldest to newest: the `len` slots from the head on, wrapping around. -/
def iter (r : BaselineRing α) : List (Tick × α) :=
  (List.range r.len).filterMap fun i => (r.slots[(r.head + i) % r.capacity]?).join

/-- Writes an entry after the newest one; a full ring overwrites its oldest entry instead and
moves the head on. -/
def place (r : BaselineRing α) (tick : Tick) (value : α) : BaselineRing α :=
  if r.len < r.capacity then
    { r with slots := r.slots.setIfInBounds ((r.head + r.len) % r.capacity) (some (tick, value)),
             len := r.len + 1, lastTick := some tick }
  else
    { r with slots := r.slots.setIfInBounds r.head (some (tick, value)),
             head := (r.head + 1) % r.capacity, lastTick := some tick }

/-- Stores `value` at `tick`, which must be newer than the last tick inserted. -/
def insert (r : BaselineRing α) (tick : Tick) (value : α) : Except BaselineError (BaselineRing α) :=
  match r.lastTick with
  | some last => if tick ≤ last then .error (.outOfOrder last tick) else .ok (r.place tick value)
  | none => .ok (r.place tick value)

def get? (r : BaselineRing α) (tick : Tick) : Option α :=
  (r.iter.find? (·.1 == tick)).map Prod.snd

/-- Makes `tick` the agreed baseline. A tick at or before the agreed one changes nothing; any
other tick must be stored. -/
def acknowledge (r : BaselineRing α) (tick : Tick) : Except BaselineError (BaselineRing α) :=
  if r.agreedTick.any (tick ≤ ·) then .ok r
  else if (r.get? tick).isNone then .error (.notFound tick)
  else .ok { r with agreedTick := some tick }

def agreed (r : BaselineRing α) : Option (Tick × α) :=
  r.agreedTick.bind fun t => (r.get? t).map fun v => (t, v)

def latest (r : BaselineRing α) : Option (Tick × α) := r.iter.getLast?

/-- The newest entry at or before `tick`, found walking back from the newest. -/
def latestAtOrBefore (r : BaselineRing α) (tick : Tick) : Option (Tick × α) :=
  r.iter.reverse.find? (·.1 ≤ tick)

def clear (r : BaselineRing α) : BaselineRing α := ⟨Array.replicate r.capacity none, 0, 0, none, none⟩

end BaselineRing

end EntitySync
