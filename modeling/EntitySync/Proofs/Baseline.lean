import EntitySync.Proofs.Session
import EntitySync.Baseline.Ring
/-!
# Baseline rings keep a bounded history

A baseline store of capacity `c` stands for a bounded first-in first-out history. Of the entries
inserted since the last clear it shows the last `c`, oldest first, at strictly increasing ticks;
an insert must be newer than the last tick inserted; and the agreed tick moves only by an
acknowledgement, only forward, and only to a tick it shows. `FifoHistory` is that history kept
whole, with those operations.

`baselineRing_refines_fifo`: after any run of inserts, acknowledgements and clears on a ring of
capacity `c ≥ 1`, the next operation fails exactly when, and as, the history's does, and every
lookup of the ring answers from the window of the last `c` entries.

The proof passes through the list form `BaselineStore` by two simulations. `Represents` ties the
ring to the list: the `len` slots from the head, wrapping around, hold the list's entries in
order. `Tracks` ties the list to the history: the list is the history's window. Each is kept by
every operation with the same outcome (`OutcomesAgree`), hence by every run (`runOps_agree`).
-/

namespace EntitySync

/-! ## Runs of operations -/

/-- An operation on a baseline store. -/
inductive BaselineOp (α : Type) where
  | insert (tick : Tick) (value : α)
  | acknowledge (tick : Tick)
  | clear

section Runs

variable {σ τ υ α : Type}

/-- The state after an operation: its result, or the state as it was when the operation fails. -/
def applyOrKeep (apply : σ → BaselineOp α → Except BaselineError σ) (s : σ) (op : BaselineOp α) : σ :=
  match apply s op with
  | .ok s' => s'
  | .error _ => s

/-- Runs operations in turn; one that fails changes nothing. -/
def runOps (apply : σ → BaselineOp α → Except BaselineError σ) (s : σ) : List (BaselineOp α) → σ
  | [] => s
  | op :: ops => runOps apply (applyOrKeep apply s op) ops

@[simp] theorem runOps_nil (apply : σ → BaselineOp α → Except BaselineError σ) (s : σ) :
    runOps apply s [] = s := rfl

@[simp] theorem runOps_cons (apply : σ → BaselineOp α → Except BaselineError σ) (s : σ)
    (op : BaselineOp α) (ops : List (BaselineOp α)) :
    runOps apply s (op :: ops) = runOps apply (applyOrKeep apply s op) ops := rfl

/-- Two outcomes of one operation agree: the same error, or successes related by `R`. -/
def OutcomesAgree (R : σ → τ → Prop) : Except BaselineError σ → Except BaselineError τ → Prop
  | .ok a, .ok b => R a b
  | .error e, .error e' => e = e'
  | _, _ => False

namespace OutcomesAgree

variable {R : σ → τ → Prop} {S : τ → υ → Prop}

theorem map_unit {x : Except BaselineError σ} {y : Except BaselineError τ} (h : OutcomesAgree R x y) :
    x.map (fun _ => ()) = y.map (fun _ => ()) := by
  cases x <;> cases y <;> simp_all [OutcomesAgree, Except.map]

theorem comp {x : Except BaselineError σ} {y : Except BaselineError τ} {z : Except BaselineError υ}
    (hxy : OutcomesAgree R x y) (hyz : OutcomesAgree S y z) :
    OutcomesAgree (fun a c => ∃ b, R a b ∧ S b c) x z := by
  cases x <;> cases y <;> cases z <;> simp_all [OutcomesAgree]
  exact ⟨_, hxy, hyz⟩

end OutcomesAgree

theorem runOps_agree {R : σ → τ → Prop} {f : σ → BaselineOp α → Except BaselineError σ}
    {g : τ → BaselineOp α → Except BaselineError τ}
    (hstep : ∀ s t op, R s t → OutcomesAgree R (f s op) (g t op)) :
    ∀ (ops : List (BaselineOp α)) {s t}, R s t → R (runOps f s ops) (runOps g t ops)
  | [], _, _, h => h
  | op :: ops, s, t, h => by
    refine runOps_agree hstep ops ?_
    have hop := hstep s t op h
    unfold applyOrKeep
    -- the two outcomes fail together, and then both states stay as they were
    cases hf : f s op <;> cases hg : g t op <;> rw [hf, hg] at hop <;> simp_all [OutcomesAgree]

end Runs

/-- An operation on a store kept as a list. -/
def BaselineStore.apply {α : Type} (s : BaselineStore α) : BaselineOp α → Except BaselineError (BaselineStore α)
  | .insert tick value => s.insert tick value
  | .acknowledge tick => s.acknowledge tick
  | .clear => .ok s.clear

/-! ## Rings of slots -/

namespace BaselineRing

variable {α : Type} {r : BaselineRing α} {s : BaselineStore α} {t : Tick} {v : α}

/-- An operation on a ring. -/
def apply (r : BaselineRing α) : BaselineOp α → Except BaselineError (BaselineRing α)
  | .insert tick value => r.insert tick value
  | .acknowledge tick => r.acknowledge tick
  | .clear => .ok r.clear

theorem add_mod_eq {head i cap : Nat} (hhead : head < cap) (hi : i ≤ cap) :
    (head + i) % cap = if head + i < cap then head + i else head + i - cap := by
  split
  · exact Nat.mod_eq_of_lt ‹_›
  · rw [Nat.mod_eq_sub_mod (by omega), Nat.mod_eq_of_lt (by omega)]

theorem add_mod_inj {head i j cap : Nat} (hhead : head < cap) (hi : i < cap) (hj : j < cap)
    (h : (head + i) % cap = (head + j) % cap) : i = j := by
  rw [add_mod_eq hhead hi.le, add_mod_eq hhead hj.le] at h
  split at h <;> split at h <;> omega

/-- Reading `n` slots in turn, where slot `i` holds the `i`-th entry of `l`, gives the first `n`
entries of `l`. -/
theorem filterMap_range {β : Type} {f : Nat → Option β} {l : List β}
    (hf : ∀ i (hi : i < l.length), f i = some l[i]) :
    ∀ {n}, n ≤ l.length → (List.range n).filterMap f = l.take n
  | 0, _ => by simp
  | n + 1, hn => by
    rw [List.range_succ, List.filterMap_append, filterMap_range hf (by omega), List.take_add_one,
      List.getElem?_eq_getElem (by omega)]
    simp [hf n (by omega)]

/-- The ring `r` stores the entries of the list `s`: the `len` slots from the head, wrapping
around, hold them oldest first, and the ticks kept beside the slots are the list's. -/
structure Represents (r : BaselineRing α) (s : BaselineStore α) : Prop where
  capacity_eq : r.capacity = s.capacity
  capacity_pos : 0 < s.capacity
  head_lt : r.head < s.capacity
  len_eq : r.len = s.entries.length
  len_le : s.entries.length ≤ s.capacity
  slot : ∀ i (hi : i < s.entries.length), r.slots[(r.head + i) % s.capacity]? = some (some s.entries[i])
  lastTick_eq : r.lastTick = s.lastTick
  agreedTick_eq : r.agreedTick = s.agreedTick

namespace Represents

theorem iter_eq (h : Represents r s) : r.iter = s.entries := by
  unfold iter
  rw [h.len_eq, h.capacity_eq, filterMap_range (fun i hi => by simp [h.slot i hi]) le_rfl,
    List.take_length]

theorem get?_eq (h : Represents r s) : r.get? t = s.get? t := by
  simp only [get?, BaselineStore.get?, h.iter_eq]

theorem new {c : Nat} (hc : 0 < c) : Represents (new c : BaselineRing α) (BaselineStore.empty c) where
  capacity_eq := Array.size_replicate
  capacity_pos := hc
  head_lt := hc
  len_eq := rfl
  len_le := Nat.zero_le _
  slot _ hi := nomatch hi
  lastTick_eq := rfl
  agreedTick_eq := rfl

theorem clear (h : Represents r s) : Represents r.clear s.clear where
  capacity_eq := by
    show (Array.replicate r.capacity none).size = s.capacity
    rw [Array.size_replicate, h.capacity_eq]
  capacity_pos := h.capacity_pos
  head_lt := h.capacity_pos
  len_eq := rfl
  len_le := Nat.zero_le _
  slot _ hi := nomatch hi
  lastTick_eq := rfl
  agreedTick_eq := rfl

theorem lastTick_push (h : Represents r s) : (s.push t v).lastTick = some t := by
  rw [BaselineStore.lastTick, ← BaselineStore.latest, BaselineStore.latest_push h.capacity_pos]
  rfl

theorem place_of_lt (h : Represents r s) (hfree : r.len < r.capacity) :
    Represents (r.place t v) (s.push t v) := by
  have hcap : r.slots.size = s.capacity := h.capacity_eq
  have hlen := h.len_eq
  have hle := h.len_le
  have hfree' : r.len < s.capacity := hcap ▸ hfree
  have hpush : (s.push t v).entries = s.entries ++ [(t, v)] := by
    simp only [BaselineStore.push, List.length_append, List.length_singleton]
    rw [if_neg (by omega)]
  have hplace : r.place t v = { r with
      slots := r.slots.setIfInBounds ((r.head + r.len) % s.capacity) (some (t, v)),
      len := r.len + 1, lastTick := some t } := by
    simp only [place, capacity, hcap, if_pos hfree']
  rw [hplace]
  refine ⟨?cap, h.capacity_pos, h.head_lt, ?len, ?le, ?slot, h.lastTick_push.symm, h.agreedTick_eq⟩
  case cap => simp [capacity, hcap]
  case len => simp [hpush, hlen]
  case le => simp only [hpush, List.length_append, List.length_singleton, BaselineStore.capacity_push]; omega
  case slot =>
    intro i hi
    simp only [hpush, List.length_append, List.length_singleton] at hi
    simp only [Array.getElem?_setIfInBounds, BaselineStore.capacity_push, hpush, hcap]
    by_cases hold : i < s.entries.length
    · -- an older entry: its slot is not the one written
      have hne : (r.head + r.len) % s.capacity ≠ (r.head + i) % s.capacity := fun heq =>
        absurd (add_mod_inj h.head_lt hfree' (by omega) heq) (by omega)
      rw [if_neg hne, h.slot i hold, List.getElem_append_left hold]
    · have hnew : i = r.len := by omega
      subst hnew
      rw [if_pos rfl, if_pos (Nat.mod_lt _ h.capacity_pos)]
      simp [hlen]

theorem place_of_full (h : Represents r s) (hfull : ¬ r.len < r.capacity) :
    Represents (r.place t v) (s.push t v) := by
  have hcap : r.slots.size = s.capacity := h.capacity_eq
  have hlen := h.len_eq
  have hle := h.len_le
  have hfull'' : ¬ r.len < s.capacity := hcap ▸ hfull
  have hfull' : s.entries.length = s.capacity := by omega
  have hpush : (s.push t v).entries = (s.entries ++ [(t, v)]).drop 1 := by
    simp only [BaselineStore.push, List.length_append, List.length_singleton]
    rw [if_pos (by omega)]
  have hplace : r.place t v = { r with
      slots := r.slots.setIfInBounds r.head (some (t, v)),
      head := (r.head + 1) % s.capacity, lastTick := some t } := by
    simp only [place, capacity, hcap, if_neg hfull'']
  rw [hplace]
  refine ⟨?cap, h.capacity_pos, Nat.mod_lt _ h.capacity_pos, ?len, ?le, ?slot,
    h.lastTick_push.symm, h.agreedTick_eq⟩
  case cap => simp [capacity, hcap]
  case len => simp [hpush, hlen, hfull']
  case le => simp [hpush, hfull']
  case slot =>
    intro i hi
    simp only [hpush, List.length_drop, List.length_append, List.length_singleton] at hi
    have hstep : ((r.head + 1) % s.capacity + i) % s.capacity = (r.head + (i + 1)) % s.capacity := by
      rw [Nat.mod_add_mod]
      congr 1
      omega
    simp only [Array.getElem?_setIfInBounds, BaselineStore.capacity_push, hpush, hcap, hstep,
      List.getElem_drop]
    by_cases hstay : i + 1 < s.capacity
    · -- an entry that stays: its slot, one further from the old head, is not the one written
      have hne : r.head ≠ (r.head + (i + 1)) % s.capacity := by
        intro heq
        have h0 : (r.head + 0) % s.capacity = (r.head + (i + 1)) % s.capacity := by
          rw [Nat.add_zero, Nat.mod_eq_of_lt h.head_lt]
          exact heq
        exact absurd (add_mod_inj h.head_lt h.capacity_pos hstay h0) (by omega)
      rw [if_neg hne, h.slot (i + 1) (by omega), List.getElem_append_left (by omega)]
      simp only [Nat.add_comm 1 i]
    · -- the newest entry sits where the oldest was
      have hwrap : (r.head + (i + 1)) % s.capacity = r.head := by
        rw [show i + 1 = s.capacity by omega, Nat.add_mod_right, Nat.mod_eq_of_lt h.head_lt]
      rw [hwrap, if_pos rfl, if_pos h.head_lt]
      simp [List.getElem_append_right, hfull', show 1 + i = s.capacity by omega]

theorem place (h : Represents r s) : Represents (r.place t v) (s.push t v) := by
  by_cases hfree : r.len < r.capacity
  · exact h.place_of_lt hfree
  · exact h.place_of_full hfree

theorem insert (h : Represents r s) : OutcomesAgree Represents (r.insert t v) (s.insert t v) := by
  unfold BaselineRing.insert BaselineStore.insert
  rw [h.lastTick_eq]
  cases s.lastTick with
  | none => exact h.place
  | some last =>
    by_cases hle : t ≤ last
    · simp [hle, OutcomesAgree]
    · simp only [hle, if_false]
      exact h.place

theorem agreeOn (h : Represents r s) :
    Represents { r with agreedTick := some t } { s with agreedTick := some t } :=
  { h with agreedTick_eq := rfl }

theorem acknowledge (h : Represents r s) :
    OutcomesAgree Represents (r.acknowledge t) (s.acknowledge t) := by
  -- past the agreed tick both ends look the tick up alike
  have hlookup : OutcomesAgree Represents
      (if (r.get? t).isNone then .error (.notFound t) else .ok { r with agreedTick := some t })
      (s.agreeOn t) := by
    rw [h.get?_eq]
    unfold BaselineStore.agreeOn
    cases s.get? t with
    | none => rfl
    | some _ => exact h.agreeOn
  unfold BaselineRing.acknowledge BaselineStore.acknowledge
  rw [h.agreedTick_eq]
  cases s.agreedTick with
  | none =>
    rw [if_neg (by simp)]
    exact hlookup
  | some a =>
    dsimp only
    by_cases hle : t ≤ a
    · rw [if_pos (by simpa using hle), if_pos hle]
      exact h
    · rw [if_neg (by simpa using hle), if_neg hle]
      exact hlookup

theorem apply (h : Represents r s) (op : BaselineOp α) :
    OutcomesAgree Represents (r.apply op) (s.apply op) := by
  cases op with
  | insert t v => exact h.insert
  | acknowledge t => exact h.acknowledge
  | clear => exact h.clear

end Represents

end BaselineRing

/-! ## The history a store stands for -/

/-- Every entry inserted since the last clear, oldest first, and the agreed tick. -/
structure FifoHistory (α : Type) where
  inserted : List (Tick × α)
  agreedTick : Option Tick

namespace FifoHistory

variable {α : Type} {c : Nat} {h : FifoHistory α}

/-- Nothing inserted, nothing agreed. -/
def empty : FifoHistory α := ⟨[], none⟩

/-- The last `capacity` entries inserted, or all of them while there are fewer. -/
def window (capacity : Nat) (h : FifoHistory α) : List (Tick × α) :=
  h.inserted.drop (h.inserted.length - capacity)

/-- The last tick inserted since the last clear. -/
def lastTick (h : FifoHistory α) : Option Tick := h.inserted.getLast?.map Prod.fst

/-- An operation on the history of a store of `capacity` entries. An insert must be newer than
the last tick inserted. An acknowledgement at or before the agreed tick changes nothing, and any
other must name an entry of the window. A clear forgets everything. -/
def apply (capacity : Nat) (h : FifoHistory α) : BaselineOp α → Except BaselineError (FifoHistory α)
  | .insert t v =>
    match h.lastTick with
    | some last =>
      if t ≤ last then .error (.outOfOrder last t) else .ok { h with inserted := h.inserted ++ [(t, v)] }
    | none => .ok { h with inserted := h.inserted ++ [(t, v)] }
  | .acknowledge t =>
    if h.agreedTick.any (t ≤ ·) then .ok h
    else if t ∈ (h.window capacity).map Prod.fst then .ok { h with agreedTick := some t }
    else .error (.notFound t)
  | .clear => .ok empty

theorem window_suffix : h.window c <:+ h.inserted := List.drop_suffix _ _

theorem length_window : (h.window c).length = min c h.inserted.length := by
  simp only [window, List.length_drop]
  omega

/-- Appending to a history moves its window as a push moves a list store: the new entry comes
last and, once the window is full, the oldest goes. -/
theorem window_append (hc : 0 < c) (x : Tick × α) :
    (h.inserted ++ [x]).drop ((h.inserted ++ [x]).length - c) =
      let e := h.window c ++ [x]
      if c < e.length then e.drop 1 else e := by
  simp only [window, List.length_append, List.length_singleton, List.length_drop]
  by_cases hfew : h.inserted.length < c
  · rw [if_neg (by omega), show h.inserted.length + 1 - c = 0 by omega,
      show h.inserted.length - c = 0 by omega]
    rfl
  · rw [if_pos (by omega), List.drop_append_of_le_length (by omega),
      List.drop_append_of_le_length (by simp; omega), List.drop_drop]
    congr 2
    omega

theorem le_lastTick (hinc : (h.inserted.map Prod.fst).Pairwise (· < ·)) {last : Tick}
    (hlast : h.lastTick = some last) {e : Tick × α} (he : e ∈ h.inserted) : e.1 ≤ last := by
  obtain ⟨z, hz, rfl⟩ := Option.map_eq_some_iff.mp hlast
  obtain ⟨ys, hys⟩ := List.getLast?_eq_some_iff.mp hz
  rw [hys, List.map_append, List.pairwise_append] at hinc
  rw [hys, List.mem_append, List.mem_singleton] at he
  rcases he with he | rfl
  · exact UInt32.le_of_lt (hinc.2.2 _ (List.mem_map_of_mem he) _ (by simp))
  · exact UInt32.le_refl _

end FifoHistory

namespace BaselineStore

variable {α : Type} {s : BaselineStore α} {t : Tick}

theorem get?_isSome_iff : (s.get? t).isSome ↔ t ∈ s.entries.map Prod.fst := by
  simp [get?, List.find?_isSome, List.mem_map]

end BaselineStore

open FifoHistory in
/-- The list store `s` of capacity `c` holds the window of the history `h`, whose ticks increase,
and the same agreed tick. -/
structure Tracks {α : Type} (c : Nat) (s : BaselineStore α) (h : FifoHistory α) : Prop where
  capacity_eq : s.capacity = c
  capacity_pos : 0 < c
  entries_eq : s.entries = h.window c
  agreedTick_eq : s.agreedTick = h.agreedTick
  ticks_increase : (h.inserted.map Prod.fst).Pairwise (· < ·)

namespace Tracks

variable {α : Type} {c : Nat} {s : BaselineStore α} {h : FifoHistory α} {t : Tick} {v : α}

theorem start (hc : 0 < c) : Tracks c (BaselineStore.empty c : BaselineStore α) FifoHistory.empty :=
  ⟨rfl, hc, by simp [BaselineStore.empty, FifoHistory.window, FifoHistory.empty], rfl,
    List.Pairwise.nil⟩

theorem clear (ht : Tracks c s h) : Tracks c s.clear FifoHistory.empty :=
  ⟨ht.capacity_eq, ht.capacity_pos, by simp [BaselineStore.clear, FifoHistory.window, FifoHistory.empty],
    rfl, List.Pairwise.nil⟩

theorem lastTick_eq (ht : Tracks c s h) : s.lastTick = h.lastTick := by
  rw [BaselineStore.lastTick, ht.entries_eq, FifoHistory.window, List.getLast?_drop,
    FifoHistory.lastTick]
  split
  · next hnone =>
    have hempty : h.inserted = [] := List.eq_nil_of_length_eq_zero (by have := ht.capacity_pos; omega)
    simp [hempty]
  · rfl

theorem push (ht : Tracks c s h) (hnewer : ∀ e ∈ h.inserted, e.1 < t) :
    Tracks c (s.push t v) { h with inserted := h.inserted ++ [(t, v)] } := by
  refine ⟨ht.capacity_eq, ht.capacity_pos, ?_, ht.agreedTick_eq, ?_⟩
  · show (s.push t v).entries = (h.inserted ++ [(t, v)]).drop ((h.inserted ++ [(t, v)]).length - c)
    rw [FifoHistory.window_append ht.capacity_pos, BaselineStore.push, ← ht.entries_eq,
      ht.capacity_eq]
  · rw [List.map_append, List.pairwise_append]
    refine ⟨ht.ticks_increase, List.pairwise_singleton _ _, ?_⟩
    intro a ha b hb
    obtain ⟨e, he, rfl⟩ := List.mem_map.mp ha
    rw [List.map_singleton, List.mem_singleton] at hb
    rw [hb]
    exact hnewer e he

theorem insert (ht : Tracks c s h) :
    OutcomesAgree (Tracks c) (s.insert t v) (h.apply c (.insert t v)) := by
  unfold BaselineStore.insert FifoHistory.apply
  rw [ht.lastTick_eq]
  cases hlast : h.lastTick with
  | none =>
    have hempty : h.inserted = [] := by
      simpa [FifoHistory.lastTick] using hlast
    exact ht.push (by simp [hempty])
  | some last =>
    dsimp only
    by_cases hle : t ≤ last
    · rw [if_pos hle, if_pos hle]
      rfl
    · rw [if_neg hle, if_neg hle]
      exact ht.push fun e he =>
        UInt32.lt_of_le_of_lt (FifoHistory.le_lastTick ht.ticks_increase hlast he) (UInt32.not_le.mp hle)

theorem acknowledge (ht : Tracks c s h) :
    OutcomesAgree (Tracks c) (s.acknowledge t) (h.apply c (.acknowledge t)) := by
  -- past the agreed tick the store looks the tick up in the window
  have hlookup : OutcomesAgree (Tracks c) (s.agreeOn t)
      (if t ∈ (h.window c).map Prod.fst then .ok { h with agreedTick := some t }
        else .error (.notFound t)) := by
    unfold BaselineStore.agreeOn
    have hiff := BaselineStore.get?_isSome_iff (s := s) (t := t)
    rw [ht.entries_eq] at hiff
    cases hget : s.get? t with
    | none =>
      rw [if_neg (fun hmem => by simpa [hget] using hiff.mpr hmem)]
      rfl
    | some _ =>
      rw [if_pos (hiff.mp (by simp [hget]))]
      exact { ht with agreedTick_eq := rfl }
  unfold BaselineStore.acknowledge FifoHistory.apply
  rw [ht.agreedTick_eq]
  cases h.agreedTick with
  | none =>
    dsimp only
    rw [if_neg (by simp)]
    exact hlookup
  | some a =>
    dsimp only
    by_cases hle : t ≤ a
    · rw [if_pos hle, if_pos (by simpa using hle)]
      exact ht
    · rw [if_neg hle, if_neg (by simpa using hle)]
      exact hlookup

theorem apply (ht : Tracks c s h) (op : BaselineOp α) :
    OutcomesAgree (Tracks c) (s.apply op) (h.apply c op) := by
  cases op with
  | insert t v => exact ht.insert
  | acknowledge t => exact ht.acknowledge
  | clear => exact ht.clear

end Tracks

/-! ## Rings stand for histories -/

section Lookups

variable {α : Type} {L : List (Tick × α)} {t : Tick}

/-- In a list of increasing ticks, walking back from the newest finds, at or before `t`, the entry
with the greatest such tick. -/
theorem find?_reverse_le_eq_some_iff (hL : (L.map Prod.fst).Pairwise (· < ·)) {e : Tick × α} :
    L.reverse.find? (·.1 ≤ t) = some e ↔ e ∈ L ∧ e.1 ≤ t ∧ ∀ e' ∈ L, e'.1 ≤ t → e'.1 ≤ e.1 := by
  have hinj : ∀ e ∈ L, ∀ e' ∈ L, e.1 = e'.1 → e = e' := fun e he e' he' =>
    List.inj_on_of_nodup_map (hL.imp UInt32.ne_of_lt) he he'
  -- what `find?` returns is greatest: entries before it fail the test, entries after are older
  have hfound : ∀ e, L.reverse.find? (·.1 ≤ t) = some e →
      e ∈ L ∧ e.1 ≤ t ∧ ∀ e' ∈ L, e'.1 ≤ t → e'.1 ≤ e.1 := by
    intro e hfind
    obtain ⟨hp, before, after, hsplit, hskip⟩ := List.find?_eq_some_iff_append.mp hfind
    have hdesc : ((before ++ e :: after).map Prod.fst).Pairwise (· > ·) := by
      rw [← hsplit, List.map_reverse, List.pairwise_reverse]
      exact hL
    have hmem : e ∈ L := List.mem_reverse.mp (hsplit ▸ List.mem_append_right _ (List.mem_cons_self ..))
    refine ⟨hmem, by simpa using hp, fun e' he' hle => ?_⟩
    have he'' : e' ∈ before ++ e :: after := hsplit ▸ List.mem_reverse.mpr he'
    rcases List.mem_append.mp he'' with hb | ha
    · exact absurd (by simpa using hle) (by simpa using hskip e' hb)
    · rcases List.mem_cons.mp ha with rfl | ha
      · exact UInt32.le_refl _
      · rw [List.map_append, List.map_cons, List.pairwise_append, List.pairwise_cons] at hdesc
        exact UInt32.le_of_lt (hdesc.2.1.1 _ (List.mem_map_of_mem ha))
  refine ⟨hfound e, fun ⟨hmem, hle, hmax⟩ => ?_⟩
  obtain ⟨e', he'⟩ := Option.isSome_iff_exists.mp
    (List.find?_isSome.mpr ⟨e, List.mem_reverse.mpr hmem, by simpa using hle⟩ :
      (L.reverse.find? (·.1 ≤ t)).isSome)
  obtain ⟨hmem', hle', hmax'⟩ := hfound e' he'
  rw [he', hinj e' hmem' e hmem (UInt32.le_antisymm (hmax e' hmem' hle') (hmax' e hmem hle))]

end Lookups

namespace BaselineRing

variable {α : Type} {c : Nat} {r : BaselineRing α} {h : FifoHistory α}

/-- The ring `r` of capacity `c` stands for the history `h`, through a list store. -/
def Refines (c : Nat) (r : BaselineRing α) (h : FifoHistory α) : Prop :=
  ∃ s, r.Represents s ∧ Tracks c s h

namespace Refines

theorem start (hc : 0 < c) : Refines c (BaselineRing.new c : BaselineRing α) FifoHistory.empty :=
  ⟨_, Represents.new hc, Tracks.start hc⟩

theorem apply (hr : Refines c r h) (op : BaselineOp α) :
    OutcomesAgree (Refines c) (r.apply op) (h.apply c op) := by
  obtain ⟨s, hrs, hsh⟩ := hr
  exact (hrs.apply op).comp (hsh.apply op)

theorem run (hr : Refines c r h) (ops : List (BaselineOp α)) :
    Refines c (runOps BaselineRing.apply r ops) (runOps (FifoHistory.apply c) h ops) :=
  runOps_agree (fun _ _ op hr => hr.apply op) ops hr

theorem iter_eq (hr : Refines c r h) : r.iter = h.window c := by
  obtain ⟨s, hrs, hsh⟩ := hr
  rw [hrs.iter_eq, hsh.entries_eq]

theorem len_eq (hr : Refines c r h) : r.len = (h.window c).length := by
  obtain ⟨s, hrs, hsh⟩ := hr
  rw [hrs.len_eq, hsh.entries_eq]

theorem agreedTick_eq (hr : Refines c r h) : r.agreedTick = h.agreedTick := by
  obtain ⟨s, hrs, hsh⟩ := hr
  rw [hrs.agreedTick_eq, hsh.agreedTick_eq]

theorem ticks_increase (hr : Refines c r h) : (r.iter.map Prod.fst).Pairwise (· < ·) := by
  obtain ⟨s, hrs, hsh⟩ := hr
  rw [hrs.iter_eq, hsh.entries_eq]
  exact hsh.ticks_increase.sublist (FifoHistory.window_suffix.sublist.map _)

theorem get?_eq_some_iff (hr : Refines c r h) {t : Tick} {v : α} :
    r.get? t = some v ↔ (t, v) ∈ h.window c := by
  rw [get?, ← hr.iter_eq]
  exact find?_key_eq_some_iff (hr.ticks_increase.imp UInt32.ne_of_lt)

theorem agreed_eq_some_iff (hr : Refines c r h) {t : Tick} {v : α} :
    r.agreed = some (t, v) ↔ h.agreedTick = some t ∧ (t, v) ∈ h.window c := by
  rw [← hr.agreedTick_eq, ← hr.get?_eq_some_iff, agreed]
  cases r.agreedTick with
  | none => simp
  | some a =>
    simp only [Option.bind_some, Option.map_eq_some_iff, Prod.mk.injEq, Option.some.injEq]
    constructor
    · rintro ⟨w, hw, rfl, rfl⟩
      exact ⟨rfl, hw⟩
    · rintro ⟨rfl, hw⟩
      exact ⟨v, hw, rfl, rfl⟩

end Refines

end BaselineRing

namespace FifoHistory

variable {α : Type} {c : Nat} {h : FifoHistory α}

theorem agreedTick_applyOrKeep {op : BaselineOp α} (hop : op ≠ .clear) {a : Tick}
    (ha : h.agreedTick = some a) :
    ∃ b, (applyOrKeep (apply c) h op).agreedTick = some b ∧ a ≤ b := by
  cases op with
  | clear => exact absurd rfl hop
  | insert t v =>
    -- an insert leaves the agreement alone, whether it fails or not
    have hkeep : (applyOrKeep (apply c) h (.insert t v)).agreedTick = h.agreedTick := by
      unfold applyOrKeep apply
      cases h.lastTick with
      | none => rfl
      | some last =>
        dsimp only
        by_cases hle : t ≤ last
        · rw [if_pos hle]
        · rw [if_neg hle]
    exact ⟨a, hkeep.trans ha, UInt32.le_refl a⟩
  | acknowledge t =>
    unfold applyOrKeep apply
    dsimp only
    rw [ha]
    by_cases hle : t ≤ a
    · rw [if_pos (by simpa using hle)]
      exact ⟨a, ha, UInt32.le_refl a⟩
    · -- an acknowledgement past the agreed tick moves it forward, or fails
      rw [if_neg (by simpa using hle)]
      by_cases hmem : t ∈ (h.window c).map Prod.fst
      · rw [if_pos hmem]
        exact ⟨t, rfl, UInt32.le_of_lt (UInt32.not_le.mp hle)⟩
      · rw [if_neg hmem]
        exact ⟨a, ha, UInt32.le_refl a⟩

theorem agreedTick_runOps {more : List (BaselineOp α)} (hmore : ∀ op ∈ more, op ≠ .clear) :
    ∀ {h : FifoHistory α} {a : Tick}, h.agreedTick = some a →
      ∃ b, (runOps (apply c) h more).agreedTick = some b ∧ a ≤ b := by
  induction more with
  | nil => exact fun ha => ⟨_, ha, UInt32.le_refl _⟩
  | cons op ops ih =>
    intro h a ha
    obtain ⟨b, hb, hab⟩ := agreedTick_applyOrKeep (c := c) (hmore op (List.mem_cons_self ..)) ha
    obtain ⟨d, hd, hbd⟩ := ih (fun op' hop' => hmore op' (List.mem_cons_of_mem _ hop')) hb
    exact ⟨d, hd, UInt32.le_trans hab hbd⟩

end FifoHistory

/-- A ring of capacity `c ≥ 1` behaves, over every run of operations, as the bounded history of
that run: the same outcomes, window, lookups and agreed tick. -/
theorem baselineRing_refines_fifo {α : Type} {c : Nat} (hc : 0 < c) (ops : List (BaselineOp α)) :
    let r := runOps BaselineRing.apply (BaselineRing.new c) ops
    let h := runOps (FifoHistory.apply c) FifoHistory.empty ops
    (∀ op, (r.apply op).map (fun _ => ()) = (h.apply c op).map (fun _ => ())) ∧
    r.iter = h.window c ∧ h.window c <:+ h.inserted ∧ r.len = (h.window c).length ∧
    (h.window c).length = min c h.inserted.length ∧ (r.iter.map Prod.fst).Pairwise (· < ·) ∧
    (∀ t v, r.get? t = some v ↔ (t, v) ∈ h.window c) ∧ r.latest = (h.window c).getLast? ∧
    (∀ t e, r.latestAtOrBefore t = some e ↔
      e ∈ h.window c ∧ e.1 ≤ t ∧ ∀ e' ∈ h.window c, e'.1 ≤ t → e'.1 ≤ e.1) ∧
    r.agreedTick = h.agreedTick ∧
    (∀ t v, r.agreed = some (t, v) ↔ h.agreedTick = some t ∧ (t, v) ∈ h.window c) ∧
    ∀ more, (∀ op ∈ more, op ≠ .clear) → ∀ a, r.agreedTick = some a →
      ∃ b, (runOps BaselineRing.apply r more).agreedTick = some b ∧ a ≤ b := by
  intro r h
  have hr : BaselineRing.Refines c r h := (BaselineRing.Refines.start hc).run ops
  have hinc := hr.ticks_increase
  refine ⟨fun op => (hr.apply op).map_unit, hr.iter_eq, FifoHistory.window_suffix, hr.len_eq,
    FifoHistory.length_window, hinc, fun t v => hr.get?_eq_some_iff, ?latest, ?before,
    hr.agreedTick_eq, fun t v => hr.agreed_eq_some_iff, ?forward⟩
  case latest => rw [BaselineRing.latest, hr.iter_eq]
  case before =>
    intro t e
    rw [BaselineRing.latestAtOrBefore, find?_reverse_le_eq_some_iff hinc, hr.iter_eq]
  case forward =>
    intro more hmore a ha
    -- the ring after `more` still stands for the history after `more`
    have hr' := hr.run more
    obtain ⟨b, hb, hab⟩ := FifoHistory.agreedTick_runOps hmore (hr.agreedTick_eq ▸ ha)
    exact ⟨b, hr'.agreedTick_eq.trans hb, hab⟩

/-- A ring of two slots after three inserts has wrapped around once. -/
theorem baselineRing_refines_fifo_wrapped :
    let ops : List (BaselineOp Nat) := [.insert 1 10, .insert 2 20, .acknowledge 1, .insert 3 30]
    0 < 2 ∧
    let r := runOps BaselineRing.apply (BaselineRing.new 2) ops
    let h := runOps (FifoHistory.apply 2) FifoHistory.empty ops
    (∀ op, (r.apply op).map (fun _ => ()) = (h.apply 2 op).map (fun _ => ())) ∧
    r.iter = h.window 2 ∧ h.window 2 <:+ h.inserted ∧ r.len = (h.window 2).length ∧
    (h.window 2).length = min 2 h.inserted.length ∧ (r.iter.map Prod.fst).Pairwise (· < ·) ∧
    (∀ t v, r.get? t = some v ↔ (t, v) ∈ h.window 2) ∧ r.latest = (h.window 2).getLast? ∧
    (∀ t e, r.latestAtOrBefore t = some e ↔
      e ∈ h.window 2 ∧ e.1 ≤ t ∧ ∀ e' ∈ h.window 2, e'.1 ≤ t → e'.1 ≤ e.1) ∧
    r.agreedTick = h.agreedTick ∧
    (∀ t v, r.agreed = some (t, v) ↔ h.agreedTick = some t ∧ (t, v) ∈ h.window 2) ∧
    ∀ more, (∀ op ∈ more, op ≠ .clear) → ∀ a, r.agreedTick = some a →
      ∃ b, (runOps BaselineRing.apply r more).agreedTick = some b ∧ a ≤ b :=
  ⟨by decide, baselineRing_refines_fifo (by decide) _⟩

end EntitySync
