import EntitySync.Proofs.ConfigDelivery
/-!
# A receiver applies a message whole or not at all

`Receiver.update` changes the receiver in place: once a message has decoded and passed the stale
check, the config strings are set, and only then is the snapshot stored. Were storing to fail
after that, the receiver would keep config strings from a message it refused. It cannot fail: the
stale check compares the tick with the newest snapshot held, and the store refuses a tick only
when it is not newer than the last one inserted, which is that same snapshot's
(`insert_of_checkNewer`). So `update` is the whole-or-nothing `apply` on every receiver
(`update_eq_apply`).

`update_atomic`: on every receiver reached by any run of `update` from a new one, a message either
is refused and leaves the receiver exactly as it was, or is accepted at a tick above every tick
held, stored under it as the newest snapshot, with the config strings set on top of the old ones
(or of none, for a bootstrap message); and the history stays in increasing tick order.
-/

namespace EntitySync

namespace BaselineStore

variable {α : Type} {s : BaselineStore α} {t : Tick} {v : α}

theorem insert_of_fresh (h : ∀ last, s.lastTick = some last → last < t) (v : α) :
    s.insert t v = .ok (s.push t v) := by
  unfold insert
  split
  · next last hlast => rw [if_neg (UInt32.not_le.mpr (h last hlast))]
  · rfl

theorem le_of_latest (hinc : (s.entries.map Prod.fst).Pairwise (· < ·)) {n : Tick} {w : α}
    (hl : s.latest = some (n, w)) : ∀ p ∈ s.entries, p.1 ≤ n := by
  obtain ⟨init, hinit⟩ := List.getLast?_eq_some_iff.mp hl
  rw [hinit, List.map_append, List.pairwise_append] at hinc
  intro p hp
  rw [hinit, List.mem_append, List.mem_singleton] at hp
  rcases hp with hp | rfl
  · exact UInt32.le_of_lt (hinc.2.2 p.1 (List.mem_map_of_mem hp) n (by simp))
  · exact UInt32.le_refl _

theorem pairwise_push (hinc : (s.entries.map Prod.fst).Pairwise (· < ·))
    (hfresh : ∀ p ∈ s.entries, p.1 < t) : ((s.push t v).entries.map Prod.fst).Pairwise (· < ·) := by
  have happ : ((s.entries ++ [(t, v)]).map Prod.fst).Pairwise (· < ·) := by
    rw [List.map_append, List.pairwise_append]
    refine ⟨hinc, by simp, ?_⟩
    intro a ha b hb
    obtain ⟨p, hp, rfl⟩ := List.mem_map.mp ha
    simp only [List.map_cons, List.map_nil, List.mem_singleton] at hb
    exact hb ▸ hfresh p hp
  unfold push
  dsimp only
  split
  · rw [List.map_drop]
    exact happ.sublist (List.drop_sublist _ _)
  · exact happ

theorem get?_push_of_fresh (hinc : (s.entries.map Prod.fst).Pairwise (· < ·))
    (hfresh : ∀ p ∈ s.entries, p.1 < t) (hc : 1 ≤ s.capacity) : (s.push t v).get? t = some v := by
  have hnodup : ((s.push t v).entries.map Prod.fst).Nodup :=
    (pairwise_push hinc hfresh).imp UInt32.ne_of_lt
  have hmem : (t, v) ∈ (s.push t v).entries :=
    List.mem_of_getLast? (latest_push hc)
  exact (find?_key_eq_some_iff hnodup).mpr hmem

end BaselineStore

namespace Receiver

variable {r : Receiver} {bytes : Bytes} {t : Tick}

theorem newestTick_eq_lastTick (r : Receiver) : r.newestTick = r.history.lastTick := by
  simp [newestTick, BaselineStore.latest, BaselineStore.lastTick]

theorem insert_of_checkNewer {u : Unit} (h : r.checkNewer t = .ok u) (v : Snapshot) :
    r.history.insert t v = .ok (r.history.push t v) :=
  BaselineStore.insert_of_fresh (fun last hlast =>
    checkNewer_eq_ok h last ((newestTick_eq_lastTick r).trans hlast)) v

/-- Applying a message in place is applying it whole or not at all: a refused message leaves the
receiver as it was. -/
theorem update_eq_apply (r : Receiver) (bytes : Bytes) :
    r.update bytes = match r.apply bytes with
      | .ok (t, r') => (r', .ok t)
      | .error e => (r, .error e) := by
  unfold update apply
  cases hd : decodeSnapshotMessage r.schema bytes r.limits r.frameLimits r.history.get? with
  | error e => rfl
  | ok m =>
    cases hc : r.checkNewer m.snapshot.tick with
    | error e => simp [hc, bind, Except.bind]
    | ok u =>
      simp [hc, bind, Except.bind, insert_of_checkNewer hc, Except.mapError, pure, Except.pure]

/-- The history holds its snapshots at increasing ticks and keeps at least one. -/
structure Ordered (r : Receiver) : Prop where
  ticks_increase : (r.history.entries.map Prod.fst).Pairwise (· < ·)
  capacity_pos : 1 ≤ r.history.capacity

/-- The receivers a run of in-place applications reaches from a new one. -/
inductive Reachable : Receiver → Prop
  | new (schema : Schema) (limits : CodecLimits) (frameLimits : FrameLimits) :
      Reachable (Receiver.new schema limits frameLimits)
  | update {r : Receiver} (bytes : Bytes) : Reachable r → Reachable (r.update bytes).1

theorem Ordered.new (schema : Schema) (limits : CodecLimits) (frameLimits : FrameLimits) :
    (Receiver.new schema limits frameLimits).Ordered :=
  ⟨List.Pairwise.nil, le_max_right _ _⟩

theorem Ordered.fresh (ho : r.Ordered) {u : Unit} (h : r.checkNewer t = .ok u) :
    ∀ p ∈ r.history.entries, p.1 < t := by
  intro p hp
  cases hl : r.history.latest with
  | none =>
    simp [BaselineStore.latest, List.getLast?_eq_none_iff] at hl
    simp [hl] at hp
  | some q =>
    have hnew : q.1 < t := checkNewer_eq_ok h q.1 (by simp [newestTick, hl])
    exact UInt32.lt_of_le_of_lt (BaselineStore.le_of_latest ho.ticks_increase hl p hp) hnew

/-- What an accepted message does: it decoded against the history, passed the stale check, and
its snapshot and config strings were stored. -/
theorem apply_eq_ok_fresh (ho : r.Ordered) {r' : Receiver} (h : r.apply bytes = .ok (t, r')) :
    ∃ d, decodeSnapshotMessage r.schema bytes r.limits r.frameLimits r.history.get? = .ok d ∧
      t = d.snapshot.tick ∧ (∀ p ∈ r.history.entries, p.1 < t) ∧
      r' = { r with
        history := r.history.push t d.snapshot
        config := IndexTable.setAll (if d.header.flags.isBootstrap then .empty else r.config)
          d.configStrings } := by
  unfold apply at h
  dsimp only at h
  obtain ⟨d, hd, h₁⟩ := Except.bind_eq_ok.mp h
  obtain ⟨u, hnewer, h₂⟩ := Except.bind_eq_ok.mp h₁
  rw [insert_of_checkNewer hnewer] at h₂
  simp only [Except.mapError, bind, Except.bind, pure, Except.pure, Except.ok.injEq,
    Prod.mk.injEq] at h₂
  obtain ⟨rfl, rfl⟩ := h₂
  exact ⟨d, hd, rfl, ho.fresh hnewer, rfl⟩

theorem Ordered.update (ho : r.Ordered) (bytes : Bytes) : (r.update bytes).1.Ordered := by
  rw [update_eq_apply]
  split
  · next t r' h =>
    obtain ⟨d, -, rfl, hfresh, rfl⟩ := apply_eq_ok_fresh ho h
    exact ⟨BaselineStore.pairwise_push ho.ticks_increase hfresh, ho.capacity_pos⟩
  · exact ho

theorem Reachable.ordered (hr : r.Reachable) : r.Ordered := by
  induction hr with
  | new schema limits frameLimits => exact Ordered.new schema limits frameLimits
  | update bytes _ ih => exact ih.update bytes

end Receiver

/-- Every reachable receiver applies a message in place whole or not at all, and keeps its
history in increasing tick order. -/
theorem update_atomic {r : Receiver} (hr : r.Reachable) (bytes : Bytes) :
    (∀ t v, r.checkNewer t = .ok () → r.history.insert t v = .ok (r.history.push t v)) ∧
    ((∃ e, r.update bytes = (r, .error e)) ∨
      ∃ d, decodeSnapshotMessage r.schema bytes r.limits r.frameLimits r.history.get? = .ok d ∧
        (∀ p ∈ r.history.entries, p.1 < d.snapshot.tick) ∧
        r.update bytes = ({ r with
          history := r.history.push d.snapshot.tick d.snapshot
          config := IndexTable.setAll (if d.header.flags.isBootstrap then .empty else r.config)
            d.configStrings }, .ok d.snapshot.tick) ∧
        (r.update bytes).1.history.get? d.snapshot.tick = some d.snapshot ∧
        (r.update bytes).1.history.latest = some (d.snapshot.tick, d.snapshot) ∧
        (r.update bytes).1.Ordered) := by
  have ho := hr.ordered
  refine ⟨fun t v h => Receiver.insert_of_checkNewer h v, ?_⟩
  cases happly : r.apply bytes with
  | error e => exact .inl ⟨e, by rw [Receiver.update_eq_apply, happly]⟩
  | ok p =>
    obtain ⟨t, r'⟩ := p
    obtain ⟨d, hd, rfl, hfresh, rfl⟩ := Receiver.apply_eq_ok_fresh ho happly
    have hupd := Receiver.update_eq_apply r bytes
    rw [happly] at hupd
    refine .inr ⟨d, hd, hfresh, hupd, ?_, ?_, ?_⟩
    · rw [hupd]
      exact BaselineStore.get?_push_of_fresh ho.ticks_increase hfresh ho.capacity_pos
    · rw [hupd]
      exact BaselineStore.latest_push ho.capacity_pos
    · exact ho.update bytes

/-- A receiver that applied `arenaMessage` meets it a second time. -/
theorem update_atomic_arena :
    let r := ((Receiver.new unitSchema CodecLimits.standard FrameLimits.standard).update
      arenaMessage).1
    r.Reachable ∧
    (∀ t v, r.checkNewer t = .ok () → r.history.insert t v = .ok (r.history.push t v)) ∧
    ((∃ e, r.update arenaMessage = (r, .error e)) ∨
      ∃ d, decodeSnapshotMessage r.schema arenaMessage r.limits r.frameLimits r.history.get? =
          .ok d ∧
        (∀ p ∈ r.history.entries, p.1 < d.snapshot.tick) ∧
        r.update arenaMessage = ({ r with
          history := r.history.push d.snapshot.tick d.snapshot
          config := IndexTable.setAll (if d.header.flags.isBootstrap then .empty else r.config)
            d.configStrings }, .ok d.snapshot.tick) ∧
        (r.update arenaMessage).1.history.get? d.snapshot.tick = some d.snapshot ∧
        (r.update arenaMessage).1.history.latest = some (d.snapshot.tick, d.snapshot) ∧
        (r.update arenaMessage).1.Ordered) :=
  have hr : Receiver.Reachable ((Receiver.new unitSchema CodecLimits.standard
      FrameLimits.standard).update arenaMessage).1 := .update arenaMessage (.new _ _ _)
  ⟨hr, update_atomic hr arenaMessage⟩

end EntitySync
