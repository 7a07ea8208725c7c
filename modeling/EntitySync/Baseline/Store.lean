import EntitySync.Snapshot.Tick
/-!
# Baseline stores

A baseline store keeps the most recent snapshots that may serve as the base of a delta, as a
bounded first-in first-out list keyed by strictly increasing ticks, together with the tick both
ends have agreed on. Inserting into a full store drops the oldest entry. Acknowledging a tick at
or before the agreed one changes nothing, so late acknowledgements never move the agreement
back; acknowledging any other tick requires it to be stored. The agreed entry is only reported
while it is still stored.
-/

namespace EntitySync

/-- Why a baseline store refused a change. -/
inductive BaselineError where
  /-- Ticks must strictly increase. -/
  | outOfOrder (lastTick newTick : Tick)
  /-- The acknowledged tick is not stored. -/
  | notFound (tick : Tick)
  deriving DecidableEq, Repr

def BaselineError.message : BaselineError → String
  | .outOfOrder lastTick newTick => s!"baseline tick {newTick} is not newer than last tick {lastTick}"
  | .notFound tick => s!"no baseline stored for tick {tick}"

/-- A bounded history of values by tick, oldest first, with the agreed tick. -/
structure BaselineStore (α : Type) where
  capacity : Nat
  entries : List (Tick × α)
  agreedTick : Option Tick
  deriving Repr

namespace BaselineStore

variable {α : Type}

def empty (capacity : Nat) : BaselineStore α := ⟨capacity, [], none⟩

def size (s : BaselineStore α) : Nat := s.entries.length

/-- The tick of the newest entry, which is the last tick inserted. -/
def lastTick (s : BaselineStore α) : Option Tick := s.entries.getLast?.map Prod.fst

/-- Appends an entry, dropping the oldest one when the store would pass its capacity. -/
def push (s : BaselineStore α) (tick : Tick) (value : α) : BaselineStore α :=
  let entries := s.entries ++ [(tick, value)]
  { s with entries := if s.capacity < entries.length then entries.drop 1 else entries }

/-- Stores `value` at `tick`, which must be newer than every stored tick; a full store drops
its oldest entry. -/
def insert (s : BaselineStore α) (tick : Tick) (value : α) : Except BaselineError (BaselineStore α) :=
  match s.lastTick with
  | some last => if tick ≤ last then .error (.outOfOrder last tick) else .ok (s.push tick value)
  | none => .ok (s.push tick value)

def get? (s : BaselineStore α) (tick : Tick) : Option α :=
  (s.entries.find? (·.1 == tick)).map Prod.snd

/-- Makes a stored `tick` the agreed baseline. -/
def agreeOn (s : BaselineStore α) (tick : Tick) : Except BaselineError (BaselineStore α) :=
  match s.get? tick with
  | some _ => .ok { s with agreedTick := some tick }
  | none => .error (.notFound tick)

/-- Makes `tick` the agreed baseline. A tick at or before the agreed one changes nothing;
any other tick must be stored. -/
def acknowledge (s : BaselineStore α) (tick : Tick) : Except BaselineError (BaselineStore α) :=
  match s.agreedTick with
  | some a => if tick ≤ a then .ok s else s.agreeOn tick
  | none => s.agreeOn tick

def agreed (s : BaselineStore α) : Option (Tick × α) :=
  s.agreedTick.bind fun t => (s.get? t).map fun v => (t, v)

def latest (s : BaselineStore α) : Option (Tick × α) := s.entries.getLast?

def latestAtOrBefore (s : BaselineStore α) (tick : Tick) : Option (Tick × α) :=
  s.entries.reverse.find? (·.1 ≤ tick)

def clear (s : BaselineStore α) : BaselineStore α := ⟨s.capacity, [], none⟩

end BaselineStore

end EntitySync
