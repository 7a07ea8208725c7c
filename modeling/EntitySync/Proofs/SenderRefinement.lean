import EntitySync.Proofs.AtomicApply
import EntitySync.Proofs.BodyLayout
/-!
# The sender encodes what the plain encoder encodes

`Sender.encode` quantizes the snapshot first and hands the quantized one to the message
encoder, where the plain encoder takes the snapshot as it is. For a settled snapshot whose states
carry at most one value per leaf the two are the same computation: quantizing a settled value
keeps its check and its wire bytes (`FieldValue.wireBytes_quantize`), so every field block, body
and message comes out the same (`encodeSnapshotMessage_quantized`). The sender then accepts
exactly what the plain encoder accepts at a tick newer than its last one, writes the same bytes,
and refuses the rest with the plain encoder's error (`sender_encode_refines`).

The bound on the number of values cannot be dropped. Quantizing zips the values with the
leaves, so a state with more values than leaves loses the extra ones before the length check
sees them: the sender accepts it and the plain encoder refuses it
(`sender_encode_drops_extra_values`).
-/

namespace EntitySync

section Quantizing

variable {schema : Schema}

@[simp] theorem FieldValue.check_quantize (k : FieldKind) (v : FieldValue) :
    (v.quantize k).check k = v.check k := by
  unfold FieldValue.quantize
  split <;> rfl

theorem FieldValue.wireBytes_quantize {k : FieldKind} {v : FieldValue} (h : v.Settled k) :
    (v.quantize k).wireBytes k = v.wireBytes k := by
  simp [FieldValue.wireBytes, FieldValue.bytesAs_eq_of_quantize_eq h]

theorem composeFrom_quantize {fs : List Field} {vs : List FieldValue}
    (h : ∀ p ∈ fs.zip vs, p.2.Settled p.1.kind) (i : Nat) (bs : List FieldValue)
    (w : FieldBlock.Writer) (n : Nat) :
    composeFrom i fs bs (List.zipWith (fun f v => v.quantize f.kind) fs vs) w n =
      composeFrom i fs bs vs w n := by
  induction fs generalizing i bs vs w n with
  | nil => cases bs <;> cases vs <;> rfl
  | cons f fs ih =>
    cases vs with
    | nil => cases bs <;> rfl
    | cons v vs =>
      cases bs with
      | nil => rfl
      | cons b bs =>
        have hv : v.Settled f.kind := h (f, v) (by simp)
        have ih' := ih (fun p hp => h p (List.mem_cons_of_mem _ hp))
        simp only [List.zipWith_cons_cons, composeFrom, FieldValue.wireBytes_quantize hv, ih']

/-- The field block of a settled state with at most one value per leaf is the same once the
state is quantized. -/
theorem composeFields_quantized {baseline : Option EntityState} {st : EntityState}
    (hlen : st.values.length ≤ schema.len) (hs : st.Settled schema) :
    composeFields schema baseline (st.quantized schema) = composeFields schema baseline st := by
  have hq : (st.quantized schema).values.length = st.values.length := by
    simp only [EntityState.quantized, List.length_zipWith, Schema.len] at hlen ⊢
    omega
  unfold composeFields checkLen
  rw [hq]
  simp only [EntityState.quantized, composeFrom_quantize hs]

theorem mergeSlots_map_current (f : EntityState → EntityState) (B C : List (Slot × EntityState)) :
    mergeSlots B (C.map fun e => (e.1, f e.2)) =
      (mergeSlots B C).map fun e => (e.1, e.2.1, e.2.2.map f) := by
  -- the walk compares slots only, which the map keeps; `fun_induction` has already taken the
  -- right-hand walk one step, so each case takes the left-hand walk the same step
  fun_induction mergeSlots B C with
  | case1 => rw [List.map_nil, mergeSlots.eq_1, List.map_nil]
  | case2 k v bs ih =>
    rw [List.map_nil] at ih ⊢
    rw [mergeSlots.eq_2, List.map_cons, ← ih]
    rfl
  | case3 k v cs ih =>
    rw [List.map_cons, mergeSlots.eq_3, ih]
    rfl
  | case4 k v bs k' v' cs hlt ih =>
    simp only [List.map_cons] at ih ⊢
    rw [mergeSlots.eq_4, if_pos hlt, ih]
    rfl
  | case5 k v bs k' v' cs hnlt hlt ih =>
    rw [List.map_cons, mergeSlots.eq_4, if_neg hnlt, if_pos hlt, ih]
    rfl
  | case6 k v bs k' v' cs hnlt hnlt' ih =>
    rw [List.map_cons, mergeSlots.eq_4, if_neg hnlt, if_neg hnlt', ih]
    rfl

theorem stageEntries_map_quantized {limits : CodecLimits}
    {L : List (Slot × Option EntityState × Option EntityState)}
    (hL : ∀ e ∈ L, ∀ c, e.2.2 = some c → c.values.length ≤ schema.len ∧ c.Settled schema)
    (count : Nat) :
    stageEntries schema limits (L.map fun e => (e.1, e.2.1, e.2.2.map (·.quantized schema))) count =
      stageEntries schema limits L count := by
  induction L generalizing count with
  | nil => rfl
  | cons e L ih =>
    obtain ⟨slot, base, cur⟩ := e
    have ih' := ih (fun e he => hL e (List.mem_cons_of_mem _ he))
    cases cur with
    | none => simp only [List.map_cons, Option.map_none, stageEntries, ih']
    | some c =>
      obtain ⟨hlen, hs⟩ := hL _ List.mem_cons_self c rfl
      simp only [List.map_cons, Option.map_some, stageEntries, composeFields_quantized hlen hs, ih']

variable {C : Snapshot}

theorem encodeBody_quantized {B : Snapshot} {limits : CodecLimits}
    (hlen : ∀ e ∈ C.entities, e.2.values.length ≤ schema.len) (hs : C.Settled schema) :
    encodeBody schema B (C.quantized schema) limits = encodeBody schema B C limits := by
  have hL : ∀ e ∈ mergeSlots B.entities C.entities, ∀ c, e.2.2 = some c →
      c.values.length ≤ schema.len ∧ c.Settled schema := by
    intro e he c hc
    have hmem := mem_current_of_mem_mergeSlots he hc
    exact ⟨hlen _ hmem, hs _ hmem⟩
  have hC : (C.quantized schema).entities = C.entities.map fun e => (e.1, e.2.quantized schema) :=
    rfl
  unfold encodeBody
  rw [hC, mergeSlots_map_current (·.quantized schema), stageEntries_map_quantized hL]

theorem messageFrame_quantized {kind : MessageKind} {config : List ConfigEntry}
    {limits : CodecLimits} {frameLimits : FrameLimits}
    (hlen : ∀ e ∈ C.entities, e.2.values.length ≤ schema.len) (hs : C.Settled schema) :
    messageFrame schema kind (C.quantized schema) config limits frameLimits =
      messageFrame schema kind C config limits frameLimits := by
  simp only [messageFrame, entitiesSectionBody, encodeBody_quantized hlen hs,
    Snapshot.tick_quantized]

/-- The message of a settled snapshot with at most one value per leaf is the message of the
snapshot quantized: the same bytes, or the same refusal. -/
theorem encodeSnapshotMessage_quantized {kind : MessageKind} {config : List ConfigEntry}
    {limits : CodecLimits} {frameLimits : FrameLimits}
    (hlen : ∀ e ∈ C.entities, e.2.values.length ≤ schema.len) (hs : C.Settled schema) :
    encodeSnapshotMessage schema kind (C.quantized schema) config limits frameLimits =
      encodeSnapshotMessage schema kind C config limits frameLimits := by
  unfold encodeSnapshotMessage
  rw [messageFrame_quantized hlen hs]

end Quantizing

namespace BaselineStore

variable {α : Type} {s : BaselineStore α} {t : Tick} {v : α}

theorem insert_eq_ok_iff_fresh :
    (∃ s', s.insert t v = .ok s') ↔ ∀ last, s.lastTick = some last → last < t := by
  constructor
  · rintro ⟨s', h⟩ last hlast
    by_cases hle : t ≤ last
    · simp [insert, hlast, hle] at h
    · exact UInt32.not_le.mp hle
  · intro h
    exact ⟨_, insert_of_fresh h v⟩

end BaselineStore

namespace Sender

/-- The kind of the sender's next message: a delta against the agreed baseline, or a full one
while no baseline is agreed. -/
def messageKind (s : Sender) : MessageKind :=
  match s.history.agreed with
  | some (_, b) => .delta b
  | none => .full

/-- The config strings the sender's next message carries: every one while no baseline is agreed,
else those whose first message is not acknowledged yet. -/
def pendingConfig (s : Sender) : List ConfigEntry :=
  (s.config.entries.filter fun (_, e) =>
      s.history.agreed.isNone || !e.acknowledged (s.history.agreed.map Prod.fst)).map
    fun (i, e) => (i, e.value)

/-- The config table once a message at `tick` went out: a string sent for the first time is
stamped with the tick. -/
def stamp (s : Sender) (tick : Tick) : IndexTable OutgoingString :=
  s.config.map fun e => { e with firstSent := e.firstSent.orElse fun _ => some tick }

/-- The plain encoder's run on `current`, with the kind and the config strings the sender's next
message takes. -/
def plainRun (s : Sender) (current : Snapshot) : EStateM.Result CodecError Buffer Nat :=
  (encodeSnapshotMessage s.schema s.messageKind current s.pendingConfig s.limits
    s.frameLimits).run (Buffer.empty s.frameLimits.maxMessageBytes)

variable {s : Sender} {C : Snapshot}

theorem encode_eq_plainRun (s : Sender) (C : Snapshot) :
    s.encode C =
      match s.plainRun (C.quantized s.schema) with
      | .ok _ out =>
        match s.history.insert C.tick (C.quantized s.schema) with
        | .ok history => .ok (out.data, { s with history := history, config := s.stamp C.tick })
        | .error e => .error (.baseline e)
      | .error e _ => .error e := by
  unfold encode
  dsimp only
  split
  · next n out hrun =>
    rw [show s.plainRun (C.quantized s.schema) = .ok n out from hrun]
    cases hins : s.history.insert C.tick (C.quantized s.schema) <;>
      simp [hins, bind, Except.bind, pure, Except.pure, Except.mapError, stamp]
  · next e b hrun =>
    rw [show s.plainRun (C.quantized s.schema) = .error e b from hrun]
    rfl

theorem plainRun_quantized (hlen : ∀ e ∈ C.entities, e.2.values.length ≤ s.schema.len)
    (hs : C.Settled s.schema) : s.plainRun (C.quantized s.schema) = s.plainRun C := by
  rw [plainRun, encodeSnapshotMessage_quantized hlen hs, plainRun]

end Sender

/-- The sender encodes as the plain encoder does on the quantized snapshot, refuses what it
refuses, and then stores the snapshot at its tick. -/
theorem sender_encode_refines {s : Sender} {C : Snapshot}
    (hlen : ∀ e ∈ C.entities, e.2.values.length ≤ s.schema.len) (hs : C.Settled s.schema) :
    ((∃ r, s.encode C = .ok r) ↔
      (∃ n buf, s.plainRun C = .ok n buf) ∧ ∀ last, s.history.lastTick = some last → last < C.tick) ∧
    (∀ e b, s.plainRun C = .error e b → s.encode C = .error e) ∧
    (∀ n buf r, s.plainRun C = .ok n buf → s.encode C = .ok r →
      r = (buf.data, { s with
        history := s.history.push C.tick (C.quantized s.schema)
        config := s.stamp C.tick })) := by
  rw [Sender.encode_eq_plainRun, Sender.plainRun_quantized hlen hs]
  cases hrun : s.plainRun C with
  | error e b =>
    dsimp only
    refine ⟨⟨fun ⟨r, hr⟩ => (nomatch hr), fun ⟨⟨n, buf, h⟩, _⟩ => (nomatch h)⟩,
      fun e' b' h => ?_, fun n buf r h => (nomatch h)⟩
    cases h
    rfl
  | ok n buf =>
    dsimp only
    cases hins : s.history.insert C.tick (C.quantized s.schema) with
    | ok history =>
      have hfresh := BaselineStore.insert_eq_ok_iff_fresh.mp ⟨history, hins⟩
      obtain rfl := BaselineStore.insert_eq_ok hins
      refine ⟨⟨fun _ => ⟨⟨n, buf, rfl⟩, hfresh⟩, fun _ => ⟨_, rfl⟩⟩, fun e b h => (nomatch h), ?_⟩
      rintro n' buf' r ⟨⟩ ⟨⟩
      rfl
    | error e =>
      have hstale : ¬ ∀ last, s.history.lastTick = some last → last < C.tick := fun h => by
        obtain ⟨_, h'⟩ := (BaselineStore.insert_eq_ok_iff_fresh (v := C.quantized s.schema)).mpr h
        rw [hins] at h'
        cases h'
      exact ⟨⟨fun ⟨r, hr⟩ => (nomatch hr), fun ⟨_, h⟩ => absurd h hstale⟩, fun e b h => (nomatch h),
        fun n buf r _ h => (nomatch h)⟩

/-- A fresh sender takes `unitsAfter` as the plain encoder does. -/
theorem sender_encode_refines_units :
    let s := Sender.new unitSchema CodecLimits.standard FrameLimits.standard
    (∀ e ∈ unitsAfter.entities, e.2.values.length ≤ s.schema.len) ∧
    unitsAfter.Settled s.schema ∧
    ((∃ r, s.encode unitsAfter = .ok r) ↔
      (∃ n buf, s.plainRun unitsAfter = .ok n buf) ∧
        ∀ last, s.history.lastTick = some last → last < unitsAfter.tick) ∧
    (∀ e b, s.plainRun unitsAfter = .error e b → s.encode unitsAfter = .error e) ∧
    (∀ n buf r, s.plainRun unitsAfter = .ok n buf → s.encode unitsAfter = .ok r →
      r = (buf.data, { s with
        history := s.history.push unitsAfter.tick (unitsAfter.quantized s.schema)
        config := s.stamp unitsAfter.tick })) :=
  have hlen : ∀ e ∈ unitsAfter.entities, e.2.values.length ≤ unitSchema.len := by decide
  have hs : unitsAfter.Settled unitSchema := by decide
  ⟨hlen, hs, sender_encode_refines hlen hs⟩

/-- A state with a value past the schema's leaves: the sender drops the value when it quantizes
and sends the state, while the plain encoder refuses it. -/
theorem sender_encode_drops_extra_values :
    ((Sender.new unitSchema CodecLimits.standard FrameLimits.standard).encode
        ⟨1, [(⟨1, by decide⟩, ⟨[.u16 7, .f32 Binary32.zero, .str "ann", .u8 8]⟩)], by decide⟩).toOption.isSome ∧
      (Sender.new unitSchema CodecLimits.standard FrameLimits.standard).plainRun
        ⟨1, [(⟨1, by decide⟩, ⟨[.u16 7, .f32 Binary32.zero, .str "ann", .u8 8]⟩)], by decide⟩ =
        .error (.fieldCountMismatch 3 4) (Buffer.empty FrameLimits.standard.maxMessageBytes) := by
  decide +kernel

end EntitySync
