import EntitySync.Snapshot.Tick
import EntitySync.Entity.State
/-!
# Snapshots

A snapshot is the state of every entity at one tick, kept as a list of slot and state pairs in
strictly ascending slot order. Inserting at a slot replaces the state there, and every listing
of a snapshot is in slot order.

The order is a field of the snapshot, proved where `insert`, `erase` and `quantized` build one,
so no theorem about snapshots assumes it.
-/

namespace EntitySync

/-- The entity states at one tick, by strictly ascending slot. -/
@[ext]
structure Snapshot where
  tick : Tick
  entities : List (Slot × EntityState)
  ascending : entities.Pairwise (fun a b => a.1.toNat < b.1.toNat)
  deriving DecidableEq

namespace Snapshot

def empty (tick : Tick) : Snapshot := ⟨tick, [], List.Pairwise.nil⟩

def get? (s : Snapshot) (slot : Slot) : Option EntityState :=
  (s.entities.find? (·.1.toNat == slot.toNat)).map Prod.snd

/-- Puts a state at its place in an ascending list, replacing the state at the same slot. -/
def insertSorted (slot : Slot) (st : EntityState) :
    List (Slot × EntityState) → List (Slot × EntityState)
  | [] => [(slot, st)]
  | (k, v) :: rest =>
    if slot.toNat < k.toNat then (slot, st) :: (k, v) :: rest
    else if slot.toNat = k.toNat then (slot, st) :: rest
    else (k, v) :: insertSorted slot st rest

theorem mem_insertSorted {slot : Slot} {s : EntityState} {L : List (Slot × EntityState)}
    {e : Slot × EntityState} (he : e ∈ insertSorted slot s L) : e ∈ L ∨ e = (slot, s) := by
  fun_induction insertSorted slot s L with
  | case1 => exact .inr (List.mem_singleton.mp he)
  | case2 k v rest hlt =>
    rcases List.mem_cons.mp he with rfl | he
    · exact .inr rfl
    · exact .inl he
  | case3 k v rest hnlt heq =>
    rcases List.mem_cons.mp he with rfl | he
    · exact .inr rfl
    · exact .inl (List.mem_cons_of_mem _ he)
  | case4 k v rest hnlt hne ih =>
    rcases List.mem_cons.mp he with rfl | he
    · exact .inl List.mem_cons_self
    · exact (ih he).imp (List.mem_cons_of_mem _) id

theorem ascending_insertSorted {slot : Slot} {st : EntityState} {L : List (Slot × EntityState)}
    (hL : L.Pairwise (fun a b => a.1.toNat < b.1.toNat)) :
    (insertSorted slot st L).Pairwise (fun a b => a.1.toNat < b.1.toNat) := by
  fun_induction insertSorted slot st L with
  | case1 => exact List.pairwise_singleton _ _
  | case2 k v rest hlt =>
    refine List.pairwise_cons.mpr ⟨fun x hx => ?_, hL⟩
    rcases List.mem_cons.mp hx with rfl | hx
    · exact hlt
    · exact Nat.lt_trans hlt ((List.pairwise_cons.mp hL).1 x hx)
  | case3 k v rest hnlt heq =>
    obtain ⟨hk, hrest⟩ := List.pairwise_cons.mp hL
    exact List.pairwise_cons.mpr ⟨fun x hx => heq ▸ hk x hx, hrest⟩
  | case4 k v rest hnlt hne ih =>
    -- the slot goes after the head, which therefore stays below everything after it
    obtain ⟨hk, hrest⟩ := List.pairwise_cons.mp hL
    refine List.pairwise_cons.mpr ⟨fun x hx => ?_, ih hrest⟩
    rcases mem_insertSorted hx with hx | rfl
    · exact hk x hx
    · show k.toNat < slot.toNat
      omega

/-- Puts a state at a slot; the state it replaces, if any, comes first. -/
def insert (s : Snapshot) (slot : Slot) (st : EntityState) : Option EntityState × Snapshot :=
  (s.get? slot, { s with entities := insertSorted slot st s.entities,
                         ascending := ascending_insertSorted s.ascending })

/-- Removes the state at a slot; the removed state, if any, comes first. -/
def erase (s : Snapshot) (slot : Slot) : Option EntityState × Snapshot :=
  (s.get? slot, { s with entities := s.entities.filter (·.1.toNat != slot.toNat),
                         ascending := s.ascending.filter _ })

def size (s : Snapshot) : Nat := s.entities.length

def slots (s : Snapshot) : List Slot := s.entities.map Prod.fst

def quantized (s : Snapshot) (schema : Schema) : Snapshot :=
  ⟨s.tick, s.entities.map fun (k, v) => (k, v.quantized schema),
    by simpa [List.pairwise_map] using s.ascending⟩

end Snapshot

end EntitySync
