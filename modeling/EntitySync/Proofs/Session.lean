import EntitySync.Proofs.Message
import EntitySync.Session.Sender
import EntitySync.Session.Receiver
/-!
# The two ends of a session

What each operation of a session's ends changes when it succeeds: `Sender.encode` writes a
message against the agreed baseline and stores the quantized snapshot, `Sender.acknowledge`
moves only the agreement, and `Receiver.apply` stores the snapshot it decoded as its newest.

Two facts join the ends. Decoding a message depends on the receiver's baseline lookup only
through the snapshots the lookup finds, so a receiver that finds only what the sender stored
decodes as if it found exactly that (`decodeSnapshotMessage_mono`). And a message the sender
wrote from a settled snapshot is decoded, when it is decoded at all, to that snapshot quantized
(`decodeSnapshotMessage_written`).
-/

namespace EntitySync

/-! ## Quantizing settled snapshots -/

section Quantizing

variable {schema : Schema}

theorem zipWith_quantize_idem {fs : List Field} {vs : List FieldValue}
    (h : ∀ p ∈ fs.zip vs, p.2.Settled p.1.kind) :
    List.zipWith (fun f v => v.quantize f.kind) fs
        (List.zipWith (fun f v => v.quantize f.kind) fs vs) =
      List.zipWith (fun f v => v.quantize f.kind) fs vs := by
  induction fs generalizing vs with
  | nil => simp
  | cons f fs ih =>
    cases vs with
    | nil => simp
    | cons v vs =>
      simp only [List.zipWith_cons_cons, List.cons.injEq]
      exact ⟨h (f, v) (by simp), ih fun p hp => h p (List.mem_cons_of_mem _ hp)⟩

theorem zipWith_quantize_settled {fs : List Field} {vs : List FieldValue}
    (h : ∀ p ∈ fs.zip vs, p.2.Settled p.1.kind) :
    ∀ p ∈ fs.zip (List.zipWith (fun f v => v.quantize f.kind) fs vs), p.2.Settled p.1.kind := by
  induction fs generalizing vs with
  | nil => simp
  | cons f fs ih =>
    cases vs with
    | nil => simp
    | cons v vs =>
      intro p hp
      simp only [List.zipWith_cons_cons, List.zip_cons_cons, List.mem_cons] at hp
      rcases hp with rfl | hp
      · have hv : (v.quantize f.kind).quantize f.kind = v.quantize f.kind := h (f, v) (by simp)
        show ((v.quantize f.kind).quantize f.kind).quantize f.kind =
          (v.quantize f.kind).quantize f.kind
        rw [hv, hv]
      · exact ih (fun q hq => h q (List.mem_cons_of_mem _ hq)) p hp

theorem EntityState.quantized_quantized {s : EntityState} (h : s.Settled schema) :
    (s.quantized schema).quantized schema = s.quantized schema := by
  simp only [EntityState.quantized, EntityState.mk.injEq]
  exact zipWith_quantize_idem h

theorem EntityState.Settled.quantized {s : EntityState} (h : s.Settled schema) :
    (s.quantized schema).Settled schema :=
  zipWith_quantize_settled h

@[simp] theorem Snapshot.tick_quantized (s : Snapshot) : (s.quantized schema).tick = s.tick := rfl

theorem Snapshot.quantized_quantized {s : Snapshot} (h : s.Settled schema) :
    (s.quantized schema).quantized schema = s.quantized schema := by
  obtain ⟨t, es⟩ := s
  simp only [Snapshot.quantized, Snapshot.mk.injEq, List.map_map, true_and]
  refine List.map_congr_left fun e he => ?_
  simp [EntityState.quantized_quantized (h e he)]

theorem Snapshot.Settled.quantized {s : Snapshot} (h : s.Settled schema) :
    (s.quantized schema).Settled schema := by
  intro e he
  simp only [Snapshot.quantized, List.mem_map] at he
  obtain ⟨e', he', rfl⟩ := he
  exact (h e' he').quantized

end Quantizing

/-! ## Lists keyed by distinct keys -/

theorem find?_key_eq_some_iff {κ α : Type} [BEq κ] [LawfulBEq κ] {L : List (κ × α)}
    (hL : (L.map Prod.fst).Nodup) {k : κ} {v : α} :
    (L.find? (·.1 == k)).map Prod.snd = some v ↔ (k, v) ∈ L := by
  constructor
  · intro hfind
    obtain ⟨e, he, rfl⟩ := Option.map_eq_some_iff.mp hfind
    have hkey : e.1 = k := by simpa using List.find?_some he
    rw [← hkey]
    exact List.mem_of_find?_eq_some he
  · intro hmem
    obtain ⟨e, he⟩ := Option.isSome_iff_exists.mp
      (List.find?_isSome.mpr ⟨(k, v), hmem, by simp⟩ : (L.find? (·.1 == k)).isSome)
    have hkey : e.1 = k := by simpa using List.find?_some he
    rw [he, List.inj_on_of_nodup_map hL (List.mem_of_find?_eq_some he) hmem hkey]
    rfl

/-! ## Baseline stores -/

namespace BaselineStore

variable {α : Type} {s s' : BaselineStore α} {t : Tick} {v : α}

theorem mem_of_get? (h : s.get? t = some v) : (t, v) ∈ s.entries := by
  simp only [get?, Option.map_eq_some_iff] at h
  obtain ⟨⟨t', v'⟩, hfind, rfl⟩ := h
  have htick : t' = t := by simpa using List.find?_some hfind
  subst htick
  exact List.mem_of_find?_eq_some hfind

theorem mem_of_agreed (h : s.agreed = some (t, v)) : (t, v) ∈ s.entries := by
  simp only [agreed, Option.bind_eq_some_iff, Option.map_eq_some_iff] at h
  obtain ⟨a, -, v', hget, hv⟩ := h
  simp only [Prod.mk.injEq] at hv
  obtain ⟨rfl, rfl⟩ := hv
  exact mem_of_get? hget

theorem mem_push {e : Tick × α} (h : e ∈ (s.push t v).entries) : e ∈ s.entries ∨ e = (t, v) := by
  unfold push at h
  dsimp only at h
  split at h
  · simpa using List.mem_of_mem_drop h
  · simpa using h

@[simp] theorem capacity_push : (s.push t v).capacity = s.capacity := rfl

theorem latest_push (hc : 1 ≤ s.capacity) : (s.push t v).latest = some (t, v) := by
  unfold push latest
  dsimp only
  split
  · next hfull =>
    rw [List.getLast?_drop, if_neg (by
      simp only [List.length_append, List.length_singleton] at hfull ⊢
      omega)]
    simp
  · simp

theorem insert_eq_ok (h : s.insert t v = .ok s') : s' = s.push t v := by
  unfold insert at h
  split at h
  · split at h
    · cases h
    · exact (Except.ok.inj h).symm
  · exact (Except.ok.inj h).symm

theorem acknowledge_eq_ok (h : s.acknowledge t = .ok s') :
    s'.entries = s.entries ∧ s'.capacity = s.capacity := by
  unfold acknowledge agreeOn at h
  split at h
  · split at h
    · cases h
      exact ⟨rfl, rfl⟩
    · split at h
      · cases h
        exact ⟨rfl, rfl⟩
      · cases h
  · split at h
    · cases h
      exact ⟨rfl, rfl⟩
    · cases h

end BaselineStore

/-! ## The sender -/

namespace IndexTable

variable {α β : Type}

@[simp] theorem keys_map (f : α → β) (t : IndexTable α) :
    (t.map f).entries.map Prod.fst = t.entries.map Prod.fst := by
  simp [map, List.map_map, Function.comp_def]

end IndexTable

namespace Sender

variable {s s' : Sender} {current : Snapshot} {out : Bytes} {t : Tick}

/-- A successful encode wrote the message of the quantized snapshot, in full or against the
agreed baseline, with config strings from the sender's table, and stored the quantized
snapshot at its tick. -/
theorem encode_eq_ok (h : s.encode current = .ok (out, s')) :
    ∃ kind config n buf, (kind = .full ∨ ∃ t b, s.history.agreed = some (t, b) ∧ kind = .delta b) ∧
      (∀ e ∈ config, e.1 ∈ s.config.entries.map Prod.fst) ∧
      (encodeSnapshotMessage s.schema kind (current.quantized s.schema) config s.limits
        s.frameLimits).run (Buffer.empty s.frameLimits.maxMessageBytes) = .ok n buf ∧
      out = buf.data ∧ s'.history = s.history.push current.tick (current.quantized s.schema) ∧
      s'.schema = s.schema ∧ s'.limits = s.limits ∧ s'.frameLimits = s.frameLimits ∧
      s'.config.entries.map Prod.fst = s.config.entries.map Prod.fst := by
  unfold encode at h
  dsimp only at h
  split at h
  · next n buf hrun =>
    obtain ⟨_, hbuf, h₁⟩ := Except.bind_eq_ok.mp h
    simp only [pure, Except.pure, Except.ok.injEq] at hbuf
    subst hbuf
    obtain ⟨history, hins, h₂⟩ := Except.bind_eq_ok.mp h₁
    simp only [pure, Except.pure, Except.ok.injEq, Prod.mk.injEq] at h₂
    obtain ⟨rfl, rfl⟩ := h₂
    refine ⟨_, _, n, buf, ?_, ?_, hrun, rfl,
      BaselineStore.insert_eq_ok (Except.mapError_eq_ok.mp hins), rfl, rfl, rfl, by simp⟩
    · cases hagreed : s.history.agreed with
      | none => exact .inl rfl
      | some p => exact .inr ⟨p.1, p.2, rfl, rfl⟩
    · intro e he
      simp only [List.mem_map, List.mem_filter] at he
      obtain ⟨o, ⟨ho, -⟩, rfl⟩ := he
      exact List.mem_map_of_mem ho
  · simp [throw, throwThe, MonadExceptOf.throw, bind, Except.bind] at h

theorem setConfig_eq_ok {index : Nat} {value : String} (h : s.setConfig index value = .ok s') :
    s' = { s with config := IndexTable.set s.config index ⟨value, none⟩ } := by
  unfold setConfig at h
  split at h
  · cases h
  · exact (Except.ok.inj h).symm

theorem reset_config : s.reset.config = s.config.map fun e => { e with firstSent := none } :=
  rfl

theorem acknowledge_eq_ok (h : s.acknowledge t = .ok s') :
    s'.history.entries = s.history.entries ∧ s'.schema = s.schema ∧ s'.limits = s.limits ∧
      s'.frameLimits = s.frameLimits ∧ s'.config = s.config := by
  unfold acknowledge at h
  obtain ⟨history, hack, h₂⟩ := Except.bind_eq_ok.mp h
  simp only [pure, Except.pure, Except.ok.injEq] at h₂
  subst h₂
  exact ⟨(BaselineStore.acknowledge_eq_ok (Except.mapError_eq_ok.mp hack)).1, rfl, rfl, rfl, rfl⟩

end Sender

/-! ## The receiver -/

namespace Receiver

variable {r r' : Receiver} {bytes : Bytes} {t : Tick}

/-- A successful apply decoded the message against the receiver's history and stored the
snapshot at its tick. -/
theorem apply_eq_ok (h : r.apply bytes = .ok (t, r')) :
    ∃ d, decodeSnapshotMessage r.schema bytes r.limits r.frameLimits r.history.get? = .ok d ∧
      t = d.snapshot.tick ∧ r'.history = r.history.push t d.snapshot ∧ r'.schema = r.schema ∧
      r'.limits = r.limits ∧ r'.frameLimits = r.frameLimits := by
  unfold apply at h
  dsimp only at h
  obtain ⟨d, hd, h₁⟩ := Except.bind_eq_ok.mp h
  obtain ⟨_, -, h₂⟩ := Except.bind_eq_ok.mp h₁
  obtain ⟨history, hins, h₃⟩ := Except.bind_eq_ok.mp h₂
  simp only [pure, Except.pure, Except.ok.injEq, Prod.mk.injEq] at h₃
  obtain ⟨rfl, rfl⟩ := h₃
  exact ⟨d, hd, rfl, BaselineStore.insert_eq_ok (Except.mapError_eq_ok.mp hins), rfl, rfl, rfl⟩

end Receiver

/-! ## Decoding against what the receiver holds -/

section Decoding

variable {schema : Schema} {bytes : Bytes} {limits : CodecLimits} {frameLimits : FrameLimits}
  {lookup lookup' : Tick → Option Snapshot}

theorem Header.lookupBaseline_mono {h : Header} (hL : ∀ t b, lookup t = some b → lookup' t = some b)
    {b : Snapshot} (hb : h.lookupBaseline lookup = .ok b) : h.lookupBaseline lookup' = .ok b := by
  unfold Header.lookupBaseline at hb ⊢
  split at hb
  · next hdelta =>
    rw [if_pos hdelta]
    split at hb
    · cases hb
    · next found hfound =>
      rw [hL _ _ hfound]
      exact hb
  · next hdelta =>
    rw [if_neg hdelta]
    exact hb

/-- Decoding asks the lookup for one baseline: a lookup that finds at least what another finds
decodes every message the other decodes, alike. -/
theorem decodeSnapshotMessage_mono (hL : ∀ t b, lookup t = some b → lookup' t = some b)
    {d : DecodedMessage} (hd : decodeSnapshotMessage schema bytes limits frameLimits lookup = .ok d) :
    decodeSnapshotMessage schema bytes limits frameLimits lookup' = .ok d := by
  unfold decodeSnapshotMessage at hd ⊢
  obtain ⟨frame, hframe, h₁⟩ := Except.bind_eq_ok.mp hd
  refine Except.bind_eq_ok.mpr ⟨frame, hframe, ?_⟩
  dsimp only at h₁ ⊢
  split at h₁
  · simp [throw, throwThe, MonadExceptOf.throw, bind, Except.bind] at h₁
  · next hhash =>
    rw [if_neg hhash]
    obtain ⟨config, hcfg, h₂⟩ := Except.bind_eq_ok.mp h₁
    obtain ⟨base, hbase, h₃⟩ := Except.bind_eq_ok.mp h₂
    exact Except.bind_eq_ok.mpr ⟨config, hcfg,
      Except.bind_eq_ok.mpr ⟨base, Header.lookupBaseline_mono hL hbase, h₃⟩⟩

variable {kind : MessageKind} {current : Snapshot} {config : List ConfigEntry}

/-- A message written from a settled snapshot, against a baseline that `ideal` finds quantized,
is decoded by a lookup that finds only what `ideal` finds, if at all, to what was written: the
header of its kind with its payload length, its config strings and the snapshot quantized. -/
theorem decodeSnapshotMessage_written_eq (ideal : Tick → Option Snapshot) (hk : schema.Bounded)
    (hBs : kind.baseline.Settled schema) (hCs : current.Settled schema)
    (hideal : ∀ b, kind = .delta b → ideal b.tick = some (b.quantized schema))
    (hL : ∀ t b, lookup t = some b → ideal t = some b) (hidx : ∀ e ∈ config, e.1 < 2 ^ (32 : Nat))
    (hmachine : frameLimits.maxMessageBytes ≤ maxSize) {cap n : Nat} {buf : Buffer}
    (henc : (encodeSnapshotMessage schema kind current config limits frameLimits).run
      (Buffer.empty cap) = .ok n buf)
    {d : DecodedMessage} (hd : decodeSnapshotMessage schema buf.data limits frameLimits lookup = .ok d) :
    d = ⟨{ kind.header schema.fingerprint current.tick with
      payloadLen := UInt32.ofNat (n - headerSize) }, config, current.quantized schema⟩ := by
  obtain ⟨hdr, ss, hframe, hp, rfl, rfl⟩ := encodeSnapshotMessage_eq_ok henc
  have hread := decodeSnapshotMessage_messageFrame ideal hk hBs hCs hideal hidx hmachine hframe hp
  obtain ⟨rfl, -⟩ := messageFrame_eq_ok hframe
  simp only [Buffer.appended_data, Buffer.empty, List.nil_append] at hd
  rw [decodeSnapshotMessage_mono hL hd] at hread
  rcases ite_eq_iff.mp hread.symm with ⟨-, hsome⟩ | ⟨-, hnone⟩
  · rw [← Option.some.inj hsome, Nat.add_sub_cancel_left]
  · cases hnone

theorem decodeSnapshotMessage_written (ideal : Tick → Option Snapshot) (hk : schema.Bounded)
    (hBs : kind.baseline.Settled schema) (hCs : current.Settled schema)
    (hideal : ∀ b, kind = .delta b → ideal b.tick = some (b.quantized schema))
    (hL : ∀ t b, lookup t = some b → ideal t = some b) (hidx : ∀ e ∈ config, e.1 < 2 ^ (32 : Nat))
    (hmachine : frameLimits.maxMessageBytes ≤ maxSize) {cap n : Nat} {buf : Buffer}
    (henc : (encodeSnapshotMessage schema kind current config limits frameLimits).run
      (Buffer.empty cap) = .ok n buf)
    {d : DecodedMessage} (hd : decodeSnapshotMessage schema buf.data limits frameLimits lookup = .ok d) :
    d.snapshot = current.quantized schema := by
  rw [decodeSnapshotMessage_written_eq ideal hk hBs hCs hideal hL hidx hmachine henc hd]

end Decoding

end EntitySync
