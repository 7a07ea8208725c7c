import EntitySync.Proofs.Replication
/-!
# Config strings reach the receiver

The sender resends a config string with every message until a message that carried its current
value is acknowledged, and with every full message. `config_strings_delivered`: in every state a
session reaches over a link that loses, duplicates and reorders messages, while the sender takes
acknowledgements only of ticks the receiver applied, a config string the sender no longer resends
(its current value was first sent at or before the agreed baseline) is held by the receiver with
the sender's value.

The invariant `ConfigsDelivered` adds to the replication invariant three facts about a string at
`i` whose value `v` was first sent at tick `f`: the agreed tick is one the receiver has reached;
a receiver that has reached `f` holds `v` at `i`; and every message in flight written at `f` or
later either carries `v` at `i`, or leaves `i` out and was written once the receiver had reached
`f`. The receiver applies messages only at increasing ticks, so a message that leaves `i` out
never meets a receiver short of `f`.
-/

namespace EntitySync

/-! ## Tables of values by index -/

namespace IndexTable

variable {α : Type} {t : IndexTable α} {i j : Nat} {w : α}

theorem find?_cons_snd (k : Nat) (u : α) (rest : List (Nat × α)) :
    (((k, u) :: rest).find? (·.1 == i)).map Prod.snd =
      if k = i then some u else (rest.find? (·.1 == i)).map Prod.snd := by
  by_cases h : k = i <;> simp [h]

theorem get?_set : (t.set j w).get? i = if i = j then some w else t.get? i := by
  simp only [set, get?]
  generalize t.entries = l
  induction l with
  | nil => simp only [insertAt, find?_cons_snd, List.find?_nil, Option.map_none, eq_comm]
  | cons p rest ih =>
    obtain ⟨k, u⟩ := p
    by_cases hlt : j < k
    · -- a new head
      simp only [insertAt, if_pos hlt, find?_cons_snd]
      by_cases hij : i = j
      · simp [hij]
      · simp [hij, Ne.symm hij]
    · by_cases hjk : j = k
      · -- the head replaced
        subst hjk
        simp only [insertAt, if_neg hlt, find?_cons_snd, if_true]
        by_cases hij : i = j <;> simp [hij, Ne.symm]
      · -- past the head
        simp only [insertAt, if_neg hlt, if_neg hjk, find?_cons_snd, ih]
        by_cases hki : k = i
        · subst hki
          simp [Ne.symm hjk]
        · simp [hki]

theorem get?_eq_some_iff : t.get? i = some w ↔ (i, w) ∈ t.entries :=
  find?_key_eq_some_iff (t.ascending.imp Nat.ne_of_lt)

/-- The only entry at an index is the one a lookup finds there. -/
theorem eq_of_mem (hget : t.get? i = some w) {p : Nat × α} (hp : p ∈ t.entries) (hpi : p.1 = i) :
    p = (i, w) := by
  have hget' : t.get? p.1 = some p.2 := get?_eq_some_iff.mpr hp
  rw [hpi, hget] at hget'
  rw [Option.some.inj hget', ← hpi]

theorem get?_setAll_of_forall_ne {es : List (Nat × α)} (hes : ∀ e ∈ es, e.1 ≠ i) :
    (t.setAll es).get? i = t.get? i := by
  induction es generalizing t with
  | nil => rfl
  | cons e es ih =>
    rw [setAll, List.foldl_cons, ← setAll, ih (fun e' he' => hes e' (List.mem_cons_of_mem _ he')),
      get?_set, if_neg (hes e List.mem_cons_self).symm]

theorem get?_setAll_of_mem {es : List (Nat × α)} (hes : ∀ e ∈ es, e.1 = i → e.2 = w)
    (hmem : ∃ e ∈ es, e.1 = i) : (t.setAll es).get? i = some w := by
  induction es generalizing t with
  | nil => simp at hmem
  | cons e es ih =>
    rw [setAll, List.foldl_cons, ← setAll]
    by_cases hrest : ∃ e' ∈ es, e'.1 = i
    · exact ih (fun e' he' => hes e' (List.mem_cons_of_mem _ he')) hrest
    · -- the head is the last entry at `i`
      have hhead : e.1 = i := by
        obtain ⟨e', he', hi⟩ := hmem
        rcases List.mem_cons.mp he' with rfl | he'
        · exact hi
        · exact absurd ⟨e', he', hi⟩ hrest
      rw [get?_setAll_of_forall_ne (fun e' he' hi => hrest ⟨e', he', hi⟩), get?_set, if_pos hhead.symm,
        hes e List.mem_cons_self hhead]

theorem get?_map {β : Type} (f : α → β) : (t.map f).get? i = (t.get? i).map f := by
  simp only [get?, map, List.find?_map, Option.map_map]
  rfl

end IndexTable

/-! ## The two ends -/

namespace BaselineStore

theorem agreedTick_of_agreed {α : Type} {s : BaselineStore α} {a : Tick} {v : α}
    (h : s.agreed = some (a, v)) : s.agreedTick = some a := by
  simp only [agreed, Option.bind_eq_some_iff, Option.map_eq_some_iff, Prod.mk.injEq] at h
  obtain ⟨t, ht, -, -, rfl, -⟩ := h
  exact ht

end BaselineStore

namespace Sender

variable {s s' : Sender} {current : Snapshot} {out : Bytes}

/-- A successful encode wrote, in full or against the agreed baseline, a message carrying every
config string while no baseline is agreed and else those not yet acknowledged; and it stamped
every string not sent before with the tick of the message. -/
theorem encode_eq_ok_config (h : s.encode current = .ok (out, s')) :
    ∃ kind n buf, (kind = .full ∧ s.history.agreed = none ∨
        ∃ t b, s.history.agreed = some (t, b) ∧ kind = .delta b) ∧
      (encodeSnapshotMessage s.schema kind (current.quantized s.schema)
        ((s.config.entries.filter fun p => s.history.agreed.isNone ||
          !p.2.acknowledged (s.history.agreed.map Prod.fst)).map fun p => (p.1, p.2.value))
        s.limits s.frameLimits).run (Buffer.empty s.frameLimits.maxMessageBytes) = .ok n buf ∧
      out = buf.data ∧
      s'.config = s.config.map fun e => { e with firstSent := e.firstSent.orElse fun _ => some current.tick } := by
  unfold encode at h
  dsimp only at h
  split at h
  · next n buf hrun =>
    obtain ⟨_, hbuf, h₁⟩ := Except.bind_eq_ok.mp h
    simp only [pure, Except.pure, Except.ok.injEq] at hbuf
    subst hbuf
    obtain ⟨history, -, h₂⟩ := Except.bind_eq_ok.mp h₁
    simp only [pure, Except.pure, Except.ok.injEq, Prod.mk.injEq] at h₂
    obtain ⟨rfl, rfl⟩ := h₂
    refine ⟨_, n, buf, ?_, hrun, rfl, rfl⟩
    cases hagreed : s.history.agreed with
    | none => exact .inl ⟨rfl, rfl⟩
    | some p => exact .inr ⟨p.1, p.2, rfl, rfl⟩
  · simp [throw, throwThe, MonadExceptOf.throw, bind, Except.bind] at h

end Sender

namespace Receiver

variable {r r' : Receiver} {bytes : Bytes} {t : Tick}

/-- The tick of the newest snapshot the receiver holds. -/
def newestTick (r : Receiver) : Option Tick := r.history.latest.map Prod.fst

theorem checkNewer_eq_ok {u : Unit} (h : r.checkNewer t = .ok u) :
    ∀ n, r.newestTick = some n → n < t := by
  intro n hn
  unfold checkNewer at h
  unfold newestTick at hn
  cases hlatest : r.history.latest with
  | none => simp [hlatest] at hn
  | some p =>
    obtain ⟨m, x⟩ := p
    simp only [hlatest, Option.map_some, Option.some.injEq] at hn
    subst hn
    rw [hlatest] at h
    dsimp only at h
    split at h
    · cases h
    · exact UInt32.not_le.mp ‹_›

/-- A successful apply took a message newer than every snapshot held and set the config strings
it carried, on top of the old ones unless it is a bootstrap. -/
theorem apply_eq_ok_config (h : r.apply bytes = .ok (t, r')) :
    ∃ d, decodeSnapshotMessage r.schema bytes r.limits r.frameLimits r.history.get? = .ok d ∧
      t = d.snapshot.tick ∧ (∀ n, r.newestTick = some n → n < t) ∧
      r'.config = IndexTable.setAll (if d.header.flags.isBootstrap then .empty else r.config)
        d.configStrings := by
  unfold apply at h
  dsimp only at h
  obtain ⟨d, hd, h₁⟩ := Except.bind_eq_ok.mp h
  obtain ⟨_, hnewer, h₂⟩ := Except.bind_eq_ok.mp h₁
  obtain ⟨history, -, h₃⟩ := Except.bind_eq_ok.mp h₂
  simp only [pure, Except.pure, Except.ok.injEq, Prod.mk.injEq] at h₃
  obtain ⟨rfl, rfl⟩ := h₃
  exact ⟨d, hd, rfl, checkNewer_eq_ok hnewer, rfl⟩

theorem newestTick_apply (hc : 1 ≤ r.history.capacity) (h : r.apply bytes = .ok (t, r')) :
    r'.newestTick = some t := by
  obtain ⟨d, -, rfl, hhist, -⟩ := apply_eq_ok h
  rw [newestTick, hhist, BaselineStore.latest_push hc]
  rfl

end Receiver

/-! ## Messages and the strings they carry -/

namespace Link

section Invariant

variable {schema : Schema} {limits : CodecLimits} {frameLimits : FrameLimits}

/-- `m` is a message the sender wrote under the session's schema and limits from the snapshot `c`
sent, with the config strings `config`, in full or against a snapshot sent, quantized. -/
def WrittenWith (schema : Schema) (limits : CodecLimits) (frameLimits : FrameLimits)
    (sent : List Snapshot) (c : Snapshot) (config : List ConfigEntry) (m : Bytes) : Prop :=
  c ∈ sent ∧ (∀ e ∈ config, e.1 < 2 ^ (32 : Nat)) ∧ ∃ kind n buf,
    (kind = .full ∨ ∃ b ∈ sent, kind = .delta (b.quantized schema)) ∧
    (encodeSnapshotMessage schema kind (c.quantized schema) config limits frameLimits).run
      (Buffer.empty frameLimits.maxMessageBytes) = .ok n buf ∧ m = buf.data

namespace WrittenWith

variable {sent sent' : List Snapshot} {c : Snapshot} {config : List ConfigEntry} {m : Bytes}

theorem mono (h : WrittenWith schema limits frameLimits sent c config m)
    (hsub : ∀ c ∈ sent, c ∈ sent') : WrittenWith schema limits frameLimits sent' c config m := by
  obtain ⟨hc, hidx, kind, n, buf, hkind, henc, hm⟩ := h
  refine ⟨hsub c hc, hidx, kind, n, buf, ?_, henc, hm⟩
  rcases hkind with hfull | ⟨b, hb, hdelta⟩
  · exact .inl hfull
  · exact .inr ⟨b, hsub b hb, hdelta⟩

theorem isBootstrap_header {kind : MessageKind} {sent : List Snapshot}
    (hkind : kind = .full ∨ ∃ b ∈ sent, kind = .delta (b.quantized schema)) (hash : UInt64) (t : Tick)
    (p : UInt32) : ({ kind.header hash t with payloadLen := p } : Header).flags.isBootstrap = false := by
  rcases hkind with rfl | ⟨b, -, rfl⟩
  · exact (by decide : Flags.full.isBootstrap = false)
  · exact (by decide : Flags.delta.isBootstrap = false)

/-- A message written from the snapshots sent is decoded, by an end that stores only snapshots
sent, to the snapshot it was written from, quantized, with the config strings it was written
with, under a header that is not a bootstrap's. -/
theorem decode (hk : schema.Bounded) (hmachine : frameLimits.maxMessageBytes ≤ maxSize)
    (hticks : (sent.map Snapshot.tick).Pairwise (· < ·))
    (hsettled : ∀ c ∈ sent, c.Settled schema) (hw : WrittenWith schema limits frameLimits sent c config m)
    {lookup : Tick → Option Snapshot} (hL : ∀ t v, lookup t = some v → sentLookup schema sent t = some v)
    {d : DecodedMessage} (hd : decodeSnapshotMessage schema m limits frameLimits lookup = .ok d) :
    d.snapshot = c.quantized schema ∧ d.configStrings = config ∧ d.header.flags.isBootstrap = false := by
  obtain ⟨hc, hidx, kind, n, buf, hkind, henc, rfl⟩ := hw
  obtain ⟨hbase, hideal⟩ := sentKind_baseline hticks hsettled hkind
  rw [decodeSnapshotMessage_written_eq (sentLookup schema sent) hk hbase
    (hsettled c hc).quantized hideal hL hidx hmachine henc hd]
  exact ⟨Snapshot.quantized_quantized (hsettled c hc), rfl, isBootstrap_header hkind _ _ _⟩

end WrittenWith

/-- A message with the config strings `config`, applied by the receiver `r`, leaves `v` at index
`i`, where `v` was first sent at tick `f`: every entry of the message at `i` carries `v`, and one
does, or `r` has already reached `f`. -/
def Delivers (r : Receiver) (config : List ConfigEntry) (i : Nat) (v : String) (f : Tick) : Prop :=
  (∀ e ∈ config, e.1 = i → e.2 = v) ∧ ((∃ e ∈ config, e.1 = i) ∨ ∃ n, r.newestTick = some n ∧ f ≤ n)

theorem Delivers.mono {r r' : Receiver} {config : List ConfigEntry} {i : Nat} {v : String} {f : Tick}
    (h : Delivers r config i v f)
    (hnewer : ∀ n, r.newestTick = some n → ∃ n', r'.newestTick = some n' ∧ n ≤ n') :
    Delivers r' config i v f := by
  refine ⟨h.1, h.2.imp id fun ⟨n, hn, hfn⟩ => ?_⟩
  obtain ⟨n', hn', hnn'⟩ := hnewer n hn
  exact ⟨n', hn', UInt32.le_trans hfn hnn'⟩

/-- What every state a session reaches satisfies, when the sender takes acknowledgements only of
ticks the receiver applied: the replication invariant; the agreed tick is one the receiver has
reached; and for each string whose value `v` at `i` was first
sent at `f`, a receiver that has reached `f` holds `v` at `i`, and each message in flight written
at `f` or later delivers `v` at `i`. -/
structure ConfigsDelivered (schema : Schema) (limits : CodecLimits) (frameLimits : FrameLimits)
    (l : Link) : Prop where
  consistent : Consistent schema limits frameLimits l
  agreed_reached : ∀ a, l.sender.history.agreedTick = some a →
    ∃ n, l.receiver.newestTick = some n ∧ a ≤ n
  receiver_has : ∀ i v f, IndexTable.get? l.sender.config i = some ⟨v, some f⟩ →
    ∀ n, l.receiver.newestTick = some n → f ≤ n → l.receiver.configString? i = some v
  in_flight : ∀ m ∈ l.inFlight, ∃ c config, WrittenWith schema limits frameLimits l.sent c config m ∧
    ∀ i v f, IndexTable.get? l.sender.config i = some ⟨v, some f⟩ → f ≤ c.tick →
      Delivers l.receiver config i v f

namespace ConfigsDelivered

variable {l : Link}

theorem start : ConfigsDelivered schema limits frameLimits (start schema limits frameLimits) where
  consistent := Consistent.start
  agreed_reached _ ha := nomatch ha
  receiver_has _ _ _ hg := nomatch hg
  in_flight _ hm := nomatch hm

theorem newest_sent (hl : ConfigsDelivered schema limits frameLimits l) {n : Tick}
    (hn : l.receiver.newestTick = some n) : ∃ c ∈ l.sent, c.tick = n := by
  obtain ⟨e, he, rfl⟩ := Option.map_eq_some_iff.mp hn
  obtain ⟨c, hc, rfl⟩ := hl.consistent.receiver_stores e (List.mem_of_getLast? he)
  exact ⟨c, hc, rfl⟩

/-! ### One step -/

theorem send (hl : ConfigsDelivered schema limits frameLimits l) {current : Snapshot} {out : Bytes}
    {s' : Sender} (hfresh : ∀ c ∈ l.sent, c.tick < current.tick)
    (hsettled : current.Settled l.sender.schema) (henc : l.sender.encode current = .ok (out, s')) :
    ConfigsDelivered schema limits frameLimits
      { l with sender := s', inFlight := l.inFlight ++ [out], sent := l.sent ++ [current] } := by
  have hcons := hl.consistent.send hfresh hsettled henc
  obtain ⟨kind, n, buf, hkind, hrun, rfl, hconfig⟩ := Sender.encode_eq_ok_config henc
  obtain ⟨-, -, -, -, -, -, -, -, hhist, -, -, -, -⟩ := Sender.encode_eq_ok henc
  have hsub : ∀ c ∈ l.sent, c ∈ l.sent ++ [current] := fun c hc => List.mem_append_left _ hc
  -- a string stamped by this message was first sent with it, later than the receiver's newest
  have hstamp : ∀ i v f, IndexTable.get? s'.config i = some ⟨v, some f⟩ →
      IndexTable.get? l.sender.config i = some ⟨v, some f⟩ ∨
        f = current.tick ∧ IndexTable.get? l.sender.config i = some ⟨v, none⟩ := by
    intro i v f hg
    rw [hconfig, IndexTable.get?_map] at hg
    obtain ⟨o, ho, heq⟩ := Option.map_eq_some_iff.mp hg
    obtain ⟨ov, ofs⟩ := o
    cases ofs with
    | none =>
      simp only [Option.orElse, OutgoingString.mk.injEq, Option.some.injEq] at heq
      exact .inr ⟨heq.2.symm, by rw [ho, heq.1]⟩
    | some f' =>
      simp only [Option.orElse, OutgoingString.mk.injEq] at heq
      exact .inl (by rw [ho, heq.1, heq.2])
  have hnewest : ∀ n, l.receiver.newestTick = some n → n < current.tick := by
    intro n hn
    obtain ⟨c, hc, rfl⟩ := hl.newest_sent hn
    exact hfresh c hc
  refine ⟨hcons, ?agreed, ?has, ?flight⟩
  case agreed =>
    show ∀ a, s'.history.agreedTick = some a → _
    rw [hhist]
    exact hl.agreed_reached
  case has =>
    intro i v f hg n hn hfn
    rcases hstamp i v f hg with hold | ⟨rfl, -⟩
    · exact hl.receiver_has i v f hold n hn hfn
    · exact absurd hfn (UInt32.not_le.mpr (hnewest n hn))
  case flight =>
    intro m hm
    rcases List.mem_append.mp hm with hm | hm
    · -- an older message was written before any string this message stamped
      obtain ⟨c, config, hw, hdel⟩ := hl.in_flight m hm
      refine ⟨c, config, hw.mono hsub, fun i v f hg hfc => ?_⟩
      rcases hstamp i v f hg with hold | ⟨rfl, -⟩
      · exact hdel i v f hold hfc
      · exact absurd hfc (UInt32.not_le.mpr (hfresh c hw.1))
    · rw [List.mem_singleton] at hm
      subst hm
      have hidx : ∀ e ∈ ((l.sender.config.entries.filter fun p => l.sender.history.agreed.isNone ||
          !p.2.acknowledged (l.sender.history.agreed.map Prod.fst)).map fun p => (p.1, p.2.value)),
          e.1 < 2 ^ (32 : Nat) := by
        intro e he
        obtain ⟨p, hp, rfl⟩ := List.mem_map.mp he
        exact hl.consistent.config_indices _ (List.mem_map_of_mem (List.mem_of_mem_filter hp))
      refine ⟨current, _, ⟨List.mem_append_right _ (List.mem_singleton_self _), hidx, kind, n, buf,
        ?kind, ?run, rfl⟩, ?delivers⟩
      case kind =>
        -- a delta is written against the agreed entry, which the sender stores
        rcases hkind with ⟨hfull, -⟩ | ⟨t, b, hagreed, hdelta⟩
        · exact .inl hfull
        · obtain ⟨c, hc, he⟩ := hl.consistent.sender_stores _ (BaselineStore.mem_of_agreed hagreed)
          simp only [Prod.mk.injEq] at he
          exact .inr ⟨c, hsub c hc, by rw [hdelta, he.2]⟩
      case run =>
        rw [hl.consistent.sender_schema, hl.consistent.sender_limits,
          hl.consistent.sender_frameLimits] at hrun
        exact hrun
      case delivers =>
        intro i v f hg hfc
        obtain ⟨o, ho, hov⟩ : ∃ o, IndexTable.get? l.sender.config i = some o ∧ o.value = v ∧
            (o.firstSent = none ∨ o.firstSent = some f) := by
          rcases hstamp i v f hg with hold | ⟨-, hnew⟩
          · exact ⟨_, hold, rfl, .inr rfl⟩
          · exact ⟨_, hnew, rfl, .inl rfl⟩
        have hmem : (i, o) ∈ l.sender.config.entries := IndexTable.get?_eq_some_iff.mp ho
        refine ⟨fun e he hei => ?_, ?_⟩
        · -- the only entry at `i` is the sender's entry there
          obtain ⟨p, hp, rfl⟩ := List.mem_map.mp he
          rw [IndexTable.eq_of_mem ho (List.mem_of_mem_filter hp) hei]
          exact hov.1
        · by_cases hpass : (l.sender.history.agreed.isNone ||
              !o.acknowledged (l.sender.history.agreed.map Prod.fst)) = true
          · exact .inl ⟨(i, o.value), List.mem_map.mpr ⟨(i, o), List.mem_filter.mpr ⟨hmem, hpass⟩, rfl⟩,
              rfl⟩
          · -- left out: its first message is at or before the agreed tick, which the receiver reached
            right
            cases hagreed : l.sender.history.agreed with
            | none => simp [hagreed] at hpass
            | some ab =>
              obtain ⟨a, b⟩ := ab
              rw [hagreed] at hpass
              obtain ⟨n, hn, han⟩ := hl.agreed_reached a (BaselineStore.agreedTick_of_agreed hagreed)
              refine ⟨n, hn, UInt32.le_trans ?_ han⟩
              rcases hov.2 with hnone | hsome
              · simp [OutgoingString.acknowledged, hnone] at hpass
              · simpa [OutgoingString.acknowledged, hsome] using hpass

theorem setConfig (hl : ConfigsDelivered schema limits frameLimits l) {index : Nat} {value : String}
    {s' : Sender} (hindex : index < 2 ^ (32 : Nat)) (hset : l.sender.setConfig index value = .ok s') :
    ConfigsDelivered schema limits frameLimits { l with sender := s' } := by
  have hcons := hl.consistent.setConfig hindex hset
  obtain rfl := Sender.setConfig_eq_ok hset
  -- a string set anew has not been sent, so every string first sent at some tick is an old one
  have hold : ∀ i v f, IndexTable.get? (IndexTable.set l.sender.config index ⟨value, none⟩) i =
      some ⟨v, some f⟩ → IndexTable.get? l.sender.config i = some ⟨v, some f⟩ := by
    intro i v f hg
    rw [IndexTable.get?_set] at hg
    split at hg
    · simp at hg
    · exact hg
  exact ⟨hcons, hl.agreed_reached, fun i v f hg => hl.receiver_has i v f (hold i v f hg),
    fun m hm => by
      obtain ⟨c, config, hw, hdel⟩ := hl.in_flight m hm
      exact ⟨c, config, hw, fun i v f hg => hdel i v f (hold i v f hg)⟩⟩

theorem inFlight (hl : ConfigsDelivered schema limits frameLimits l) {ms : List Bytes}
    (hsub : ∀ m ∈ ms, m ∈ l.inFlight) :
    ConfigsDelivered schema limits frameLimits { l with inFlight := ms } :=
  { hl with
    consistent := hl.consistent.inFlight hsub
    in_flight := fun m hm => hl.in_flight m (hsub m hm) }

theorem deliver (hl : ConfigsDelivered schema limits frameLimits l) (hk : schema.Bounded)
    (hmachine : frameLimits.maxMessageBytes ≤ maxSize) {m : Bytes} (hm : m ∈ l.inFlight)
    {t : Tick} {r' : Receiver} (happly : l.receiver.apply m = .ok (t, r')) :
    ConfigsDelivered schema limits frameLimits { l with receiver := r' } := by
  have hcons := hl.consistent.deliver hk hmachine hm happly
  obtain ⟨c, config, hw, hdel⟩ := hl.in_flight m hm
  obtain ⟨d, hd, rfl, hnewer, hconfig⟩ := Receiver.apply_eq_ok_config happly
  rw [hl.consistent.receiver_schema, hl.consistent.receiver_limits,
    hl.consistent.receiver_frameLimits] at hd
  obtain ⟨hsnap, hcfg, hboot⟩ := hw.decode hk hmachine hl.consistent.ticks_increase
    hl.consistent.sent_settled
    (hl.consistent.receiver_stores.lookup hl.consistent.ticks_increase) hd
  rw [hcfg, hboot, if_neg Bool.false_ne_true] at hconfig
  have hnewest : r'.newestTick = some d.snapshot.tick :=
    Receiver.newestTick_apply hl.consistent.receiver_capacity happly
  have hreach : ∀ n, l.receiver.newestTick = some n → ∃ n', r'.newestTick = some n' ∧ n ≤ n' :=
    fun n hn => ⟨_, hnewest, UInt32.le_of_lt (hnewer n hn)⟩
  refine ⟨hcons, fun a ha => ?_, ?has, fun m' hm' => ?_⟩
  · obtain ⟨n, hn, han⟩ := hl.agreed_reached a ha
    obtain ⟨n', hn', hnn'⟩ := hreach n hn
    exact ⟨n', hn', UInt32.le_trans han hnn'⟩
  case has =>
    intro i v f hg n hn hfn
    rw [hnewest, Option.some_inj] at hn
    subst hn
    show IndexTable.get? r'.config i = some v
    rw [hconfig]
    -- the message carries the string, or the receiver already held it and the message leaves it
    obtain ⟨hval, hcarry⟩ := hdel i v f hg (by rwa [hsnap, Snapshot.tick_quantized] at hfn)
    by_cases hin : ∃ e ∈ config, e.1 = i
    · exact IndexTable.get?_setAll_of_mem hval hin
    · rw [IndexTable.get?_setAll_of_forall_ne (fun e he hei => hin ⟨e, he, hei⟩)]
      obtain ⟨n₀, hn₀, hfn₀⟩ := hcarry.resolve_left hin
      exact hl.receiver_has i v f hg n₀ hn₀ hfn₀
  · obtain ⟨c', config', hw', hdel'⟩ := hl.in_flight m' hm'
    exact ⟨c', config', hw', fun i v f hg hfc => (hdel' i v f hg hfc).mono hreach⟩

theorem acknowledge (hl : ConfigsDelivered schema limits frameLimits l) {t : Tick} {s' : Sender}
    (hack : l.sender.acknowledge t = .ok s')
    (hreached : ∀ a, s'.history.agreedTick = some a → l.sender.history.agreedTick ≠ some a →
      ∃ n, l.receiver.newestTick = some n ∧ a ≤ n) :
    ConfigsDelivered schema limits frameLimits { l with sender := s' } := by
  have hcons := hl.consistent.acknowledge hack
  obtain ⟨-, -, -, -, hconfig⟩ := Sender.acknowledge_eq_ok hack
  refine ⟨hcons, fun a ha => ?_, ?_, ?_⟩
  · by_cases hsame : l.sender.history.agreedTick = some a
    · exact hl.agreed_reached a hsame
    · exact hreached a ha hsame
  · show ∀ i v f, IndexTable.get? s'.config i = some ⟨v, some f⟩ → _
    rw [hconfig]
    exact hl.receiver_has
  · show ∀ m ∈ l.inFlight, ∃ c config, _ ∧ ∀ i v f, IndexTable.get? s'.config i = some ⟨v, some f⟩ → _
    rw [hconfig]
    exact hl.in_flight

theorem reset (hl : ConfigsDelivered schema limits frameLimits l) :
    ConfigsDelivered schema limits frameLimits { l with sender := l.sender.reset } := by
  have hnone : ∀ i v f, IndexTable.get? l.sender.reset.config i ≠ some ⟨v, some f⟩ := by
    intro i v f hg
    rw [Sender.reset_config, IndexTable.get?_map] at hg
    obtain ⟨o, -, heq⟩ := Option.map_eq_some_iff.mp hg
    simp at heq
  refine ⟨hl.consistent.reset, (fun a ha => nomatch ha), fun i v f hg => absurd hg (hnone i v f),
    fun m hm => ?_⟩
  · obtain ⟨c, config, hw, -⟩ := hl.in_flight m hm
    exact ⟨c, config, hw, fun i v f hg => absurd hg (hnone i v f)⟩

theorem step (hl : ConfigsDelivered schema limits frameLimits l) (hk : schema.Bounded)
    (hmachine : frameLimits.maxMessageBytes ≤ maxSize) {l' : Link} (hstep : Step l l')
    (hreached : ∀ a, l'.sender.history.agreedTick = some a → l.sender.history.agreedTick ≠ some a →
      ∃ n, l.receiver.newestTick = some n ∧ a ≤ n) :
    ConfigsDelivered schema limits frameLimits l' := by
  cases hstep with
  | send hfresh hsettled henc => exact hl.send hfresh hsettled henc
  | setConfig hindex hset => exact hl.setConfig hindex hset
  | drop i => exact hl.inFlight fun m hm => List.mem_of_mem_eraseIdx hm
  | duplicate hm => exact hl.inFlight fun m' hm' => (List.mem_cons.mp hm').elim (· ▸ hm) id
  | reorder hperm => exact hl.inFlight fun m hm => hperm.mem_iff.mp hm
  | deliver hm happly => exact hl.deliver hk hmachine hm happly
  | acknowledge hack => exact hl.acknowledge hack hreached
  | reset => exact hl.reset

end ConfigsDelivered

end Invariant

/-- The states a session reaches when the sender takes acknowledgements only of ticks the
receiver applied. A tick the receiver applied is at or before the newest snapshot it holds, so
it is enough that every step which makes `a` the agreed tick finds the receiver at `a` or later. -/
inductive AckedReachable (schema : Schema) (limits : CodecLimits) (frameLimits : FrameLimits) :
    Link → Prop
  | start : AckedReachable schema limits frameLimits (start schema limits frameLimits)
  | step {l l' : Link} : AckedReachable schema limits frameLimits l → Step l l' →
      (∀ a, l'.sender.history.agreedTick = some a → l.sender.history.agreedTick ≠ some a →
        ∃ n, l.receiver.newestTick = some n ∧ a ≤ n) →
      AckedReachable schema limits frameLimits l'

theorem AckedReachable.configsDelivered {schema : Schema} {limits : CodecLimits}
    {frameLimits : FrameLimits} (hk : schema.Bounded) (hmachine : frameLimits.maxMessageBytes ≤ maxSize)
    {l : Link} (h : AckedReachable schema limits frameLimits l) :
    ConfigsDelivered schema limits frameLimits l := by
  induction h with
  | start => exact ConfigsDelivered.start
  | step _ hstep hreached ih => exact ih.step hk hmachine hstep hreached

end Link

/-- Config-string agreement over a lossy link: a string the sender no longer resends is held by
the receiver with its current value. -/
theorem config_strings_delivered {schema : Schema} {limits : CodecLimits} {frameLimits : FrameLimits}
    (hk : schema.Bounded) (hmachine : frameLimits.maxMessageBytes ≤ maxSize) {l : Link}
    (hl : Link.AckedReachable schema limits frameLimits l) {i : Nat} {v : String} {f a : Tick}
    (hheld : IndexTable.get? l.sender.config i = some ⟨v, some f⟩)
    (hagreed : l.sender.agreedTick = some a) (hfa : f ≤ a) :
    l.receiver.configString? i = some v := by
  have hinv := hl.configsDelivered hk hmachine
  obtain ⟨⟨a', b⟩, hab, rfl⟩ := Option.map_eq_some_iff.mp hagreed
  -- the receiver reached the agreed tick, hence the string's first message
  obtain ⟨n, hn, han⟩ := hinv.agreed_reached a' (BaselineStore.agreedTick_of_agreed hab)
  exact hinv.receiver_has i v f hheld n hn (UInt32.le_trans hfa han)

/-! ### A run that delivers a config string -/

section Arena

/-- The sender of a fresh session after setting the config string "arena" at index 0. -/
def arenaSetSender : Sender :=
  ((Sender.new unitSchema CodecLimits.standard FrameLimits.standard).setConfig 0 "arena").toOption.getD
    (Sender.new unitSchema CodecLimits.standard FrameLimits.standard)

/-- That sender after sending `unitsAfter`, in full with the config string: `arenaMessage`. -/
def arenaSentSender : Sender := ((arenaSetSender.encode unitsAfter).toOption.map Prod.snd).getD arenaSetSender

/-- A fresh receiver after applying `arenaMessage`. -/
def arenaReceiver : Receiver :=
  (((Receiver.new unitSchema CodecLimits.standard FrameLimits.standard).apply arenaMessage).toOption.map
    Prod.snd).getD (Receiver.new unitSchema CodecLimits.standard FrameLimits.standard)

/-- The session once the sender took the acknowledgement of tick 6. -/
def arenaSession : Link :=
  ⟨(arenaSentSender.acknowledge 6).toOption.getD arenaSentSender, arenaReceiver, [arenaMessage],
    [unitsAfter]⟩

theorem arenaSession_reachable :
    Link.AckedReachable unitSchema CodecLimits.standard FrameLimits.standard arenaSession := by
  have h₁ : (Sender.new unitSchema CodecLimits.standard FrameLimits.standard).setConfig 0 "arena" =
      .ok arenaSetSender := except_eq_ok_getD _ (by decide +kernel)
  have h₂ : arenaSetSender.encode unitsAfter = .ok (arenaMessage, arenaSentSender) :=
    except_eq_ok_pair _ (by decide +kernel)
  have h₃ : (Receiver.new unitSchema CodecLimits.standard FrameLimits.standard).apply arenaMessage =
      .ok (6, arenaReceiver) := except_eq_ok_pair _ (by decide +kernel)
  have h₄ : arenaSentSender.acknowledge 6 = .ok ((arenaSentSender.acknowledge 6).toOption.getD
      arenaSentSender) := except_eq_ok_getD _ (by decide +kernel)
  have hset : arenaSetSender.history.agreedTick = none := by decide +kernel
  have hsent : arenaSentSender.history.agreedTick = none := by decide +kernel
  have hacked : arenaSession.sender.history.agreedTick = some 6 := by decide +kernel
  have hnewest : arenaReceiver.newestTick = some 6 := by decide +kernel
  refine .step (.step (.step (.step .start (.setConfig (by decide) h₁) ?_)
    (.send (fun c hc => nomatch hc) (by decide +kernel) h₂) ?_)
    (.deliver (List.mem_singleton_self _) h₃) ?_) (.acknowledge h₄) ?_
  · intro a ha
    rw [hset] at ha
    cases ha
  · intro a ha
    rw [hsent] at ha
    cases ha
  · intro a ha hne
    exact absurd ha hne
  · intro a ha _
    rw [hacked, Option.some_inj] at ha
    exact ⟨6, hnewest, ha ▸ UInt32.le_refl _⟩

/-- The run above: the sender no longer resends "arena", which the receiver holds. -/
theorem config_strings_delivered_arena :
    unitSchema.Bounded ∧ FrameLimits.standard.maxMessageBytes ≤ maxSize ∧
      Link.AckedReachable unitSchema CodecLimits.standard FrameLimits.standard arenaSession ∧
      IndexTable.get? arenaSession.sender.config 0 = some ⟨"arena", some 6⟩ ∧
      arenaSession.sender.agreedTick = some 6 ∧ (6 : Tick) ≤ 6 ∧
      arenaSession.receiver.configString? 0 = some "arena" := by
  have hk : unitSchema.Bounded := by decide
  have hmachine : FrameLimits.standard.maxMessageBytes ≤ maxSize := by decide
  have hheld : IndexTable.get? arenaSession.sender.config 0 = some ⟨"arena", some 6⟩ := by
    have hfields : (IndexTable.get? arenaSession.sender.config 0).map (fun o => (o.value, o.firstSent)) =
        some ("arena", some 6) := by decide +kernel
    obtain ⟨⟨value, firstSent⟩, ho, heq⟩ := Option.map_eq_some_iff.mp hfields
    simp only [Prod.mk.injEq] at heq
    rw [ho, heq.1, heq.2]
  have hagreed : arenaSession.sender.agreedTick = some 6 := by decide +kernel
  exact ⟨hk, hmachine, arenaSession_reachable, hheld, hagreed, UInt32.le_refl _,
    config_strings_delivered hk hmachine arenaSession_reachable hheld hagreed (UInt32.le_refl _)⟩

end Arena

end EntitySync
