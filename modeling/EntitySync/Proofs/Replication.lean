import EntitySync.Proofs.Session
/-!
# Replication over an unreliable link

One sender and one receiver share a schema and limits. Between them a link holds the messages in
flight, which it may lose, duplicate and reorder but never alters. The sender encodes snapshots
whose ticks only grow, also across its resets, sets config strings, takes acknowledgements of any
tick and forgets its history; the receiver applies any message in flight.

`replication_agreement`: in every state such a session reaches, a tick that both ends store
carries the same snapshot at both, and a message the receiver applies leaves it with the snapshot
sent at that tick, quantized, as its newest.

The invariant `Link.Consistent` ties everything either end holds to the snapshots sent: the ends
store them quantized at their ticks, and each message in flight was written from one of them,
quantized, in full or against another one of them, quantized. The receiver finds a delta's
baseline only among what it stores, so it decodes as if it looked among the snapshots sent
(`decodeSnapshotMessage_mono`), and there a message decodes to what it was written from.
-/

namespace EntitySync

/-- A session in progress: the two ends, the messages in flight and, oldest first, every
snapshot the sender encoded. -/
structure Link where
  sender : Sender
  receiver : Receiver
  inFlight : List Bytes
  sent : List Snapshot

namespace Link

/-- A new session: both ends fresh, nothing in flight and nothing sent. -/
def start (schema : Schema) (limits : CodecLimits) (frameLimits : FrameLimits) : Link :=
  ⟨Sender.new schema limits frameLimits, Receiver.new schema limits frameLimits, [], []⟩

/-- One step of a session. -/
inductive Step : Link → Link → Prop
  /-- The sender encodes a snapshot newer than every one sent before, with its states settled,
  and puts the message on the link. -/
  | send {l : Link} {current : Snapshot} {out : Bytes} {s' : Sender}
      (hfresh : ∀ c ∈ l.sent, c.tick < current.tick)
      (hsettled : current.Settled l.sender.schema) (henc : l.sender.encode current = .ok (out, s')) :
      Step l { l with sender := s', inFlight := l.inFlight ++ [out], sent := l.sent ++ [current] }
  /-- The sender sets a config string at a 32-bit index. -/
  | setConfig {l : Link} {index : Nat} {value : String} {s' : Sender} (hindex : index < 2 ^ (32 : Nat))
      (hset : l.sender.setConfig index value = .ok s') : Step l { l with sender := s' }
  /-- The link loses a message. -/
  | drop {l : Link} (i : Nat) : Step l { l with inFlight := l.inFlight.eraseIdx i }
  /-- The link delivers a message twice. -/
  | duplicate {l : Link} {m : Bytes} (hm : m ∈ l.inFlight) :
      Step l { l with inFlight := m :: l.inFlight }
  /-- The link reorders the messages in flight. -/
  | reorder {l : Link} {ms : List Bytes} (hperm : ms.Perm l.inFlight) :
      Step l { l with inFlight := ms }
  /-- The receiver applies a message in flight. -/
  | deliver {l : Link} {m : Bytes} {t : Tick} {r' : Receiver} (hm : m ∈ l.inFlight)
      (happly : l.receiver.apply m = .ok (t, r')) : Step l { l with receiver := r' }
  /-- The sender takes an acknowledgement. -/
  | acknowledge {l : Link} {t : Tick} {s' : Sender} (hack : l.sender.acknowledge t = .ok s') :
      Step l { l with sender := s' }
  /-- The sender forgets its history. -/
  | reset {l : Link} : Step l { l with sender := l.sender.reset }

/-- The states a session reaches from its start. -/
inductive Reachable (schema : Schema) (limits : CodecLimits) (frameLimits : FrameLimits) :
    Link → Prop
  | start : Reachable schema limits frameLimits (start schema limits frameLimits)
  | step {l l' : Link} : Reachable schema limits frameLimits l → Step l l' →
      Reachable schema limits frameLimits l'

section Invariant

variable {schema : Schema} {limits : CodecLimits} {frameLimits : FrameLimits}

/-! ### The snapshots sent -/

section Sent

variable {sent : List Snapshot} {c c' : Snapshot}

theorem eq_of_tick_eq (hticks : (sent.map Snapshot.tick).Pairwise (· < ·)) (hc : c ∈ sent)
    (hc' : c' ∈ sent) (ht : c.tick = c'.tick) : c = c' :=
  List.inj_on_of_nodup_map (hticks.imp UInt32.ne_of_lt) hc hc' ht

/-- The snapshot sent at `t`, quantized: what an end that stored every snapshot sent finds. -/
def sentLookup (schema : Schema) (sent : List Snapshot) (t : Tick) : Option Snapshot :=
  (sent.find? (·.tick == t)).map (·.quantized schema)

theorem sentLookup_tick (hticks : (sent.map Snapshot.tick).Pairwise (· < ·)) (hc : c ∈ sent) :
    sentLookup schema sent c.tick = some (c.quantized schema) := by
  obtain ⟨c', hfind⟩ := Option.isSome_iff_exists.mp
    (List.find?_isSome.mpr ⟨c, hc, by simp⟩ : (sent.find? (·.tick == c.tick)).isSome)
  have ht : c'.tick = c.tick := by simpa using List.find?_some hfind
  rw [sentLookup, hfind, eq_of_tick_eq hticks (List.mem_of_find?_eq_some hfind) hc ht]
  rfl

end Sent

/-! ### What the ends store -/

/-- Every entry of the store is one of the snapshots sent, quantized, at its tick. -/
def Stored (schema : Schema) (sent : List Snapshot) (s : BaselineStore Snapshot) : Prop :=
  ∀ e ∈ s.entries, ∃ c ∈ sent, e = (c.tick, c.quantized schema)

namespace Stored

variable {sent sent' : List Snapshot} {s s' : BaselineStore Snapshot}

theorem mono (h : Stored schema sent s) (hsub : ∀ c ∈ sent, c ∈ sent') : Stored schema sent' s := by
  intro e he
  obtain ⟨c, hc, rfl⟩ := h e he
  exact ⟨c, hsub c hc, rfl⟩

theorem push (h : Stored schema sent s) {c : Snapshot} (hc : c ∈ sent) :
    Stored schema sent (s.push c.tick (c.quantized schema)) := by
  intro e he
  rcases BaselineStore.mem_push he with he | rfl
  · exact h e he
  · exact ⟨c, hc, rfl⟩

theorem of_entries (h : Stored schema sent s) (he : s'.entries = s.entries) : Stored schema sent s' := by
  rw [Stored, he]
  exact h

theorem clear : Stored schema sent s.clear := by
  intro e he
  cases he

theorem get? (h : Stored schema sent s) {t : Tick} {v : Snapshot} (hget : s.get? t = some v) :
    ∃ c ∈ sent, c.tick = t ∧ v = c.quantized schema := by
  obtain ⟨c, hc, he⟩ := h _ (BaselineStore.mem_of_get? hget)
  simp only [Prod.mk.injEq] at he
  exact ⟨c, hc, he.1.symm, he.2⟩

theorem lookup (h : Stored schema sent s) (hticks : (sent.map Snapshot.tick).Pairwise (· < ·)) :
    ∀ t v, s.get? t = some v → sentLookup schema sent t = some v := by
  intro t v hget
  obtain ⟨c, hc, rfl, rfl⟩ := h.get? hget
  exact sentLookup_tick hticks hc

end Stored

/-! ### Messages in flight -/

/-- `m` is a message the sender wrote under the session's schema and limits from one of the
snapshots sent, quantized, in full or against another one of them, quantized. -/
def Written (schema : Schema) (limits : CodecLimits) (frameLimits : FrameLimits)
    (sent : List Snapshot) (m : Bytes) : Prop :=
  ∃ c ∈ sent, ∃ kind config n buf,
    (kind = .full ∨ ∃ b ∈ sent, kind = .delta (b.quantized schema)) ∧
    (∀ e ∈ config, e.1 < 2 ^ (32 : Nat)) ∧
    (encodeSnapshotMessage schema kind (c.quantized schema) config limits frameLimits).run
      (Buffer.empty frameLimits.maxMessageBytes) = .ok n buf ∧ m = buf.data

theorem Written.mono {sent sent' : List Snapshot} {m : Bytes}
    (h : Written schema limits frameLimits sent m) (hsub : ∀ c ∈ sent, c ∈ sent') :
    Written schema limits frameLimits sent' m := by
  obtain ⟨c, hc, kind, config, n, buf, hkind, hidx, henc, hm⟩ := h
  refine ⟨c, hsub c hc, kind, config, n, buf, ?_, hidx, henc, hm⟩
  rcases hkind with hfull | ⟨b, hb, hdelta⟩
  · exact .inl hfull
  · exact .inr ⟨b, hsub b hb, hdelta⟩

/-- A message written in full or against a snapshot sent has a settled baseline, and a delta's
baseline is what `sentLookup` finds at its tick. -/
theorem sentKind_baseline {sent : List Snapshot} {kind : MessageKind}
    (hticks : (sent.map Snapshot.tick).Pairwise (· < ·)) (hsettled : ∀ c ∈ sent, c.Settled schema)
    (hkind : kind = .full ∨ ∃ b ∈ sent, kind = .delta (b.quantized schema)) :
    kind.baseline.Settled schema ∧
      ∀ b, kind = .delta b → sentLookup schema sent b.tick = some (b.quantized schema) := by
  rcases hkind with rfl | ⟨b, hb, rfl⟩
  · exact ⟨nofun, nofun⟩
  · refine ⟨(hsettled b hb).quantized, ?_⟩
    rintro b' ⟨⟩
    rw [Snapshot.tick_quantized, sentLookup_tick hticks hb,
      Snapshot.quantized_quantized (hsettled b hb)]

/-- A message written from the snapshots sent is decoded, by an end that stores only snapshots
sent, to one of them quantized. -/
theorem Written.decode {sent : List Snapshot} (hk : schema.Bounded)
    (hmachine : frameLimits.maxMessageBytes ≤ maxSize)
    (hticks : (sent.map Snapshot.tick).Pairwise (· < ·)) (hsettled : ∀ c ∈ sent, c.Settled schema)
    {m : Bytes} (hw : Written schema limits frameLimits sent m)
    {lookup : Tick → Option Snapshot} (hL : ∀ t v, lookup t = some v → sentLookup schema sent t = some v)
    {d : DecodedMessage} (hd : decodeSnapshotMessage schema m limits frameLimits lookup = .ok d) :
    ∃ c ∈ sent, d.snapshot = c.quantized schema := by
  obtain ⟨c, hc, kind, config, n, buf, hkind, hidx, henc, rfl⟩ := hw
  obtain ⟨hbase, hideal⟩ := sentKind_baseline hticks hsettled hkind
  have hsnap := decodeSnapshotMessage_written (sentLookup schema sent) hk hbase
    (hsettled c hc).quantized hideal hL hidx hmachine henc hd
  exact ⟨c, hc, hsnap.trans (Snapshot.quantized_quantized (hsettled c hc))⟩

/-- What every reachable state satisfies: the ends keep the session's schema and limits, the
snapshots were sent at strictly increasing ticks, and all that either end stores or the link
carries comes from them. -/
structure Consistent (schema : Schema) (limits : CodecLimits) (frameLimits : FrameLimits)
    (l : Link) : Prop where
  sender_schema : l.sender.schema = schema
  sender_limits : l.sender.limits = limits
  sender_frameLimits : l.sender.frameLimits = frameLimits
  receiver_schema : l.receiver.schema = schema
  receiver_limits : l.receiver.limits = limits
  receiver_frameLimits : l.receiver.frameLimits = frameLimits
  receiver_capacity : 1 ≤ l.receiver.history.capacity
  ticks_increase : (l.sent.map Snapshot.tick).Pairwise (· < ·)
  sent_settled : ∀ c ∈ l.sent, c.Settled schema
  sender_stores : Stored schema l.sent l.sender.history
  receiver_stores : Stored schema l.sent l.receiver.history
  config_indices : ∀ i ∈ l.sender.config.entries.map Prod.fst, i < 2 ^ (32 : Nat)
  in_flight : ∀ m ∈ l.inFlight, Written schema limits frameLimits l.sent m

namespace Consistent

variable {l : Link}

theorem start : Consistent schema limits frameLimits (start schema limits frameLimits) where
  sender_schema := rfl
  sender_limits := rfl
  sender_frameLimits := rfl
  receiver_schema := rfl
  receiver_limits := rfl
  receiver_frameLimits := rfl
  receiver_capacity := le_max_right _ _
  ticks_increase := List.Pairwise.nil
  sent_settled _ hc := nomatch hc
  sender_stores _ he := nomatch he
  receiver_stores _ he := nomatch he
  config_indices _ hi := absurd hi List.not_mem_nil
  in_flight _ hm := nomatch hm

/-- The receiver applies a message in flight only as the snapshot it was written from: it stores
that snapshot, quantized, at its tick. -/
theorem apply (hl : Consistent schema limits frameLimits l) (hk : schema.Bounded)
    (hmachine : frameLimits.maxMessageBytes ≤ maxSize) {m : Bytes} (hm : m ∈ l.inFlight)
    {t : Tick} {r' : Receiver} (happly : l.receiver.apply m = .ok (t, r')) :
    ∃ c ∈ l.sent, c.tick = t ∧ r'.history = l.receiver.history.push t (c.quantized schema) ∧
      r'.schema = schema ∧ r'.limits = limits ∧ r'.frameLimits = frameLimits := by
  obtain ⟨d, hd, rfl, hhist, hschema, hlimits, hframe⟩ := Receiver.apply_eq_ok happly
  rw [hl.receiver_schema, hl.receiver_limits, hl.receiver_frameLimits] at hd
  obtain ⟨c, hc, hsnap⟩ := Written.decode hk hmachine hl.ticks_increase hl.sent_settled
    (hl.in_flight m hm) (hl.receiver_stores.lookup hl.ticks_increase) hd
  rw [hsnap] at hhist ⊢
  exact ⟨c, hc, rfl, hhist, hschema.trans hl.receiver_schema, hlimits.trans hl.receiver_limits,
    hframe.trans hl.receiver_frameLimits⟩

/-! ### One step -/

theorem send (hl : Consistent schema limits frameLimits l) {current : Snapshot} {out : Bytes}
    {s' : Sender} (hfresh : ∀ c ∈ l.sent, c.tick < current.tick)
    (hsettled : current.Settled l.sender.schema) (henc : l.sender.encode current = .ok (out, s')) :
    Consistent schema limits frameLimits
      { l with sender := s', inFlight := l.inFlight ++ [out], sent := l.sent ++ [current] } := by
  obtain ⟨kind, config, n, buf, hkind, hcfg, hrun, rfl, hhist, hschema, hlimits, hframe, hfst⟩ :=
    Sender.encode_eq_ok henc
  rw [hl.sender_schema] at hsettled hhist
  rw [hl.sender_schema, hl.sender_limits, hl.sender_frameLimits] at hrun
  have hsub : ∀ c ∈ l.sent, c ∈ l.sent ++ [current] := fun c hc => List.mem_append_left _ hc
  have hcur : current ∈ l.sent ++ [current] := List.mem_append_right _ (List.mem_singleton_self _)
  refine ⟨hschema.trans hl.sender_schema, hlimits.trans hl.sender_limits,
    hframe.trans hl.sender_frameLimits, hl.receiver_schema, hl.receiver_limits,
    hl.receiver_frameLimits, hl.receiver_capacity, ?ticks, ?settled, ?sender,
    hl.receiver_stores.mono hsub, ?config, ?flight⟩
  case ticks =>
    rw [List.map_append, List.pairwise_append]
    exact ⟨hl.ticks_increase, List.pairwise_singleton _ _, by simpa using hfresh⟩
  case settled => exact List.forall_mem_append.mpr ⟨hl.sent_settled, List.forall_mem_singleton.mpr hsettled⟩
  case sender =>
    show Stored schema _ s'.history
    rw [hhist]
    exact (hl.sender_stores.mono hsub).push hcur
  case config =>
    show ∀ i ∈ s'.config.entries.map Prod.fst, i < 2 ^ (32 : Nat)
    rw [hfst]
    exact hl.config_indices
  case flight =>
    refine List.forall_mem_append.mpr ⟨fun m hm => (hl.in_flight m hm).mono hsub,
      List.forall_mem_singleton.mpr ⟨current, hcur, kind, config, n, buf, ?_,
        fun e he => hl.config_indices _ (hcfg e he), hrun, rfl⟩⟩
    -- a delta is written against the agreed entry, which the sender stores
    rcases hkind with hfull | ⟨t, b, hagreed, hdelta⟩
    · exact .inl hfull
    · obtain ⟨c, hc, he⟩ := hl.sender_stores _ (BaselineStore.mem_of_agreed hagreed)
      simp only [Prod.mk.injEq] at he
      exact .inr ⟨c, hsub c hc, by rw [hdelta, he.2]⟩

theorem setConfig (hl : Consistent schema limits frameLimits l) {index : Nat} {value : String}
    {s' : Sender} (hindex : index < 2 ^ (32 : Nat)) (hset : l.sender.setConfig index value = .ok s') :
    Consistent schema limits frameLimits { l with sender := s' } := by
  obtain rfl := Sender.setConfig_eq_ok hset
  refine { hl with config_indices := fun i hi => ?_ }
  rcases IndexTable.mem_map_fst_insertAt hi with hi | rfl
  · exact hl.config_indices i hi
  · exact hindex

theorem inFlight (hl : Consistent schema limits frameLimits l) {ms : List Bytes}
    (hsub : ∀ m ∈ ms, m ∈ l.inFlight) : Consistent schema limits frameLimits { l with inFlight := ms } :=
  { hl with in_flight := fun m hm => hl.in_flight m (hsub m hm) }

theorem deliver (hl : Consistent schema limits frameLimits l) (hk : schema.Bounded)
    (hmachine : frameLimits.maxMessageBytes ≤ maxSize) {m : Bytes} (hm : m ∈ l.inFlight)
    {t : Tick} {r' : Receiver} (happly : l.receiver.apply m = .ok (t, r')) :
    Consistent schema limits frameLimits { l with receiver := r' } := by
  obtain ⟨c, hc, rfl, hhist, hschema, hlimits, hframe⟩ := hl.apply hk hmachine hm happly
  refine { hl with
    receiver_schema := hschema, receiver_limits := hlimits, receiver_frameLimits := hframe,
    receiver_capacity := ?_, receiver_stores := ?_ }
  · show 1 ≤ r'.history.capacity
    rw [hhist, BaselineStore.capacity_push]
    exact hl.receiver_capacity
  · show Stored schema l.sent r'.history
    rw [hhist]
    exact hl.receiver_stores.push hc

theorem acknowledge (hl : Consistent schema limits frameLimits l) {t : Tick} {s' : Sender}
    (hack : l.sender.acknowledge t = .ok s') : Consistent schema limits frameLimits { l with sender := s' } := by
  obtain ⟨hentries, hschema, hlimits, hframe, hconfig⟩ := Sender.acknowledge_eq_ok hack
  refine { hl with
    sender_schema := hschema.trans hl.sender_schema
    sender_limits := hlimits.trans hl.sender_limits
    sender_frameLimits := hframe.trans hl.sender_frameLimits
    sender_stores := hl.sender_stores.of_entries hentries
    config_indices := ?_ }
  show ∀ i ∈ s'.config.entries.map Prod.fst, i < 2 ^ (32 : Nat)
  rw [hconfig]
  exact hl.config_indices

theorem reset (hl : Consistent schema limits frameLimits l) :
    Consistent schema limits frameLimits { l with sender := l.sender.reset } :=
  { hl with
    sender_stores := Stored.clear
    config_indices := by
      show ∀ i ∈ l.sender.reset.config.entries.map Prod.fst, i < 2 ^ (32 : Nat)
      rw [Sender.reset_config, IndexTable.keys_map]
      exact hl.config_indices }

theorem step (hl : Consistent schema limits frameLimits l) (hk : schema.Bounded)
    (hmachine : frameLimits.maxMessageBytes ≤ maxSize) {l' : Link} (hstep : Step l l') :
    Consistent schema limits frameLimits l' := by
  cases hstep with
  | send hfresh hsettled henc => exact hl.send hfresh hsettled henc
  | setConfig hindex hset => exact hl.setConfig hindex hset
  | drop i => exact hl.inFlight fun m hm => List.mem_of_mem_eraseIdx hm
  | duplicate hm => exact hl.inFlight fun m' hm' => (List.mem_cons.mp hm').elim (· ▸ hm) id
  | reorder hperm => exact hl.inFlight fun m hm => hperm.mem_iff.mp hm
  | deliver hm happly => exact hl.deliver hk hmachine hm happly
  | acknowledge hack => exact hl.acknowledge hack
  | reset => exact hl.reset

end Consistent

theorem Reachable.consistent (hk : schema.Bounded) (hmachine : frameLimits.maxMessageBytes ≤ maxSize)
    {l : Link} (h : Reachable schema limits frameLimits l) : Consistent schema limits frameLimits l := by
  induction h with
  | start => exact Consistent.start
  | step _ hstep ih => exact ih.step hk hmachine hstep

end Invariant

end Link

/-- Replication agreement over a link that loses, duplicates and reorders messages: both ends
store the same snapshot at a tick, and an applied message yields the snapshot sent at its tick. -/
theorem replication_agreement {schema : Schema} {limits : CodecLimits} {frameLimits : FrameLimits}
    (hk : schema.Bounded) (hmachine : frameLimits.maxMessageBytes ≤ maxSize) {l : Link}
    (hl : Link.Reachable schema limits frameLimits l) :
    (∀ t s₁ s₂, l.sender.history.get? t = some s₁ → l.receiver.history.get? t = some s₂ → s₁ = s₂) ∧
      ∀ m ∈ l.inFlight, ∀ t r', l.receiver.apply m = .ok (t, r') →
        ∃ c ∈ l.sent, c.tick = t ∧ r'.latest? = some (c.quantized schema) := by
  have hc := hl.consistent hk hmachine
  refine ⟨fun t s₁ s₂ h₁ h₂ => ?_, fun m hm t r' happly => ?_⟩
  · obtain ⟨c₁, hc₁, rfl, rfl⟩ := hc.sender_stores.get? h₁
    obtain ⟨c₂, hc₂, ht, rfl⟩ := hc.receiver_stores.get? h₂
    rw [Link.eq_of_tick_eq hc.ticks_increase hc₁ hc₂ ht.symm]
  · obtain ⟨c, hc', rfl, hhist, -⟩ := hc.apply hk hmachine hm happly
    refine ⟨c, hc', rfl, ?_⟩
    rw [Receiver.latest?, hhist, BaselineStore.latest_push hc.receiver_capacity]
    rfl

/-! ### A run with a full message and a delta -/

section Units

theorem except_eq_ok_getD {ε α : Type} {x : Except ε α} (d : α) (h : x.toOption.isSome = true) :
    x = .ok (x.toOption.getD d) := by
  cases x <;> simp_all [Except.toOption]

theorem except_eq_ok_pair {ε α β : Type} {x : Except ε (α × β)} {a : α} (d : β)
    (h : x.toOption.map Prod.fst = some a) : x = .ok (a, (x.toOption.map Prod.snd).getD d) := by
  cases x with
  | error e => simp [Except.toOption] at h
  | ok p =>
    simp only [Except.toOption, Option.map_some, Option.some.injEq] at h
    simp [Except.toOption, ← h]

/-- The full message of `unitsBefore` at tick 4, sent by a fresh sender. -/
def unitsFullMessage : Bytes :=
  [83, 78, 80, 68, 1, 0, 1, 0, 92, 5, 161, 40, 21, 42, 25, 155, 4, 0, 0, 0, 0, 0, 0, 0, 22, 0, 0, 0,
    2, 20, 2, 3, 1, 3, 5, 100, 0, 97, 110, 110, 0, 5, 1, 3, 5, 7, 0, 98, 111, 0]

/-- The delta from tick 4 to `unitsAfter` at tick 6. -/
def unitsDeltaMessage : Bytes :=
  [83, 78, 80, 68, 1, 0, 2, 0, 92, 5, 161, 40, 21, 42, 25, 155, 6, 0, 0, 0, 4, 0, 0, 0, 19, 0, 0, 0,
    2, 17, 3, 3, 1, 3, 3, 90, 0, 0, 62, 5, 0, 9, 1, 3, 1, 1, 0]

def unitsFirstSender : Sender :=
  (((Sender.new unitSchema CodecLimits.standard FrameLimits.standard).encode unitsBefore).toOption.map
    Prod.snd).getD (Sender.new unitSchema CodecLimits.standard FrameLimits.standard)

def unitsAckedSender : Sender := (unitsFirstSender.acknowledge 4).toOption.getD unitsFirstSender

def unitsDeltaSender : Sender :=
  ((unitsAckedSender.encode unitsAfter).toOption.map Prod.snd).getD unitsAckedSender

def unitsReceiver : Receiver :=
  (((Receiver.new unitSchema CodecLimits.standard FrameLimits.standard).apply unitsFullMessage).toOption.map
    Prod.snd).getD (Receiver.new unitSchema CodecLimits.standard FrameLimits.standard)

/-- The session once the full message was applied and acknowledged and the delta sent: both
messages are in flight and the delta is not yet applied. -/
def unitsSession : Link :=
  ⟨unitsDeltaSender, unitsReceiver, [unitsFullMessage, unitsDeltaMessage], [unitsBefore, unitsAfter]⟩

theorem unitsSession_reachable :
    Link.Reachable unitSchema CodecLimits.standard FrameLimits.standard unitsSession := by
  have h₁ : (Sender.new unitSchema CodecLimits.standard FrameLimits.standard).encode unitsBefore =
      .ok (unitsFullMessage, unitsFirstSender) := except_eq_ok_pair _ (by decide +kernel)
  have h₂ : (Receiver.new unitSchema CodecLimits.standard FrameLimits.standard).apply unitsFullMessage =
      .ok (4, unitsReceiver) := except_eq_ok_pair _ (by decide +kernel)
  have h₃ : unitsFirstSender.acknowledge 4 = .ok unitsAckedSender :=
    except_eq_ok_getD _ (by decide +kernel)
  have h₄ : unitsAckedSender.encode unitsAfter = .ok (unitsDeltaMessage, unitsDeltaSender) :=
    except_eq_ok_pair _ (by decide +kernel)
  exact .step (.step (.step (.step .start
    (.send (fun c hc => nomatch hc) (by decide +kernel) h₁))
    (.deliver (List.mem_singleton_self _) h₂)) (.acknowledge h₃))
    (.send (by decide) (by decide +kernel) h₄)

/-- The run above: both ends hold the snapshot of tick 4, the same at both, and applying the delta
in flight leaves the receiver with `unitsAfter`, quantized, as its newest. -/
theorem replication_agreement_units :
    unitSchema.Bounded ∧ FrameLimits.standard.maxMessageBytes ≤ maxSize ∧
      Link.Reachable unitSchema CodecLimits.standard FrameLimits.standard unitsSession ∧
      (∃ s, unitsSession.sender.history.get? 4 = some s ∧ unitsSession.receiver.history.get? 4 = some s) ∧
      ∃ r', unitsSession.receiver.apply unitsDeltaMessage = .ok (6, r') ∧
        r'.latest? = some (unitsAfter.quantized unitSchema) := by
  have hk : unitSchema.Bounded := by decide
  have hmachine : FrameLimits.standard.maxMessageBytes ≤ maxSize := by decide
  obtain ⟨hstored, happlied⟩ := replication_agreement hk hmachine unitsSession_reachable
  obtain ⟨s₁, hs₁⟩ := Option.isSome_iff_exists.mp
    (by decide +kernel : (unitsSession.sender.history.get? 4).isSome = true)
  obtain ⟨s₂, hs₂⟩ := Option.isSome_iff_exists.mp
    (by decide +kernel : (unitsSession.receiver.history.get? 4).isSome = true)
  have hdelta : unitsSession.receiver.apply unitsDeltaMessage =
      .ok (6, ((unitsSession.receiver.apply unitsDeltaMessage).toOption.map Prod.snd).getD
        unitsReceiver) := except_eq_ok_pair _ (by decide +kernel)
  refine ⟨hk, hmachine, unitsSession_reachable, ⟨s₁, hs₁, hstored 4 s₁ s₂ hs₁ hs₂ ▸ hs₂⟩, _, hdelta, ?_⟩
  obtain ⟨c, hc, htick, hlatest⟩ := happlied _ (by simp [unitsSession]) 6 _ hdelta
  simp only [unitsSession, List.mem_cons, List.not_mem_nil, or_false] at hc
  rcases hc with rfl | rfl
  · exact absurd htick (by decide)
  · exact hlatest

end Units

end EntitySync
