import EntitySync.Proofs.Frame
import EntitySync.Proofs.Body
/-!
# Snapshot messages read back

A message written by `encodeSnapshotMessage` is read back by `decodeSnapshotMessage` under the
same limits exactly when it holds no more sections than `maxSections` allows and no more config
strings than `maxConfigStrings` allows. The writer checks neither: it checks each config index
against `maxConfigStrings`, but not their number, and it adds a config-string section whenever
there are config strings. When both bounds hold, the reader gives back the header the writer
made, with its payload length, the config strings in order and the quantized snapshot.

The statement needs what the body round trip needs (settled states and a schema whose string
bounds are 16-bit), config indices that are 32-bit numbers, a
largest message size that is a machine size, and, for a delta, a baseline lookup that answers
the baseline's tick with the quantized baseline.
-/

namespace EntitySync

open WriteM

variable {schema : Schema} {kind : MessageKind} {current : Snapshot} {config : List ConfigEntry}
  {limits : CodecLimits} {frameLimits : FrameLimits}

/-- The snapshot a message of this kind carries the change from. -/
def MessageKind.baseline : MessageKind → Snapshot
  | .delta b => b
  | _ => Snapshot.empty 0

namespace MessageKind

theorem baselineFor_eq_ok (hash : UInt64) {t : Tick} {b : Snapshot}
    (h : kind.baselineFor t = .ok b) : b = kind.baseline ∧ (kind.header hash t).baselineOk = true := by
  cases kind with
  | delta b₀ =>
    simp only [baselineFor] at h
    split at h
    · cases h
    · next hok =>
      cases h
      simp only [not_or, UInt32.le_iff_toNat_le] at hok
      simp [baseline, header, Header.baselineOk, show Flags.delta.isFull = false by decide, hok.1,
        UInt32.lt_iff_toNat_lt]
      omega
  | full =>
    refine ⟨(Except.ok.inj h).symm, ?_⟩
    simp [header, Header.baselineOk, show Flags.full.isFull = true by decide]
  | bootstrap =>
    refine ⟨(Except.ok.inj h).symm, ?_⟩
    simp [header, Header.baselineOk, show Flags.bootstrap.isFull = true by decide]

theorem header_version (kind : MessageKind) (hash : UInt64) (t : Tick) :
    (kind.header hash t).version.toNat = frameVersion := by
  cases kind <;> rfl

theorem header_flags_isValid (kind : MessageKind) (hash : UInt64) (t : Tick) :
    (kind.header hash t).flags.isValid = true := by
  cases kind <;> simp only [header] <;> decide

@[simp] theorem header_schemaHash (kind : MessageKind) (hash : UInt64) (t : Tick) :
    (kind.header hash t).schemaHash = hash := by
  cases kind <;> rfl

@[simp] theorem header_tick (kind : MessageKind) (hash : UInt64) (t : Tick) :
    (kind.header hash t).tick = t := by
  cases kind <;> rfl

end MessageKind

theorem Buffer.Fits.add_le_capacity {b : Buffer} {n : Nat} (h : b.Fits n)
    (hn : b.data.length + n < maxSize) : b.data.length + n ≤ b.capacity := by
  unfold Fits satAdd at h
  omega

theorem configSectionBody_eq_ok {body : Bytes} (hne : config ≠ [])
    (h : configSectionBody config frameLimits = .ok body) :
    config.length < 2 ^ (32 : Nat) ∧ body = encodeVarint config.length ++ config.flatMap ConfigEntry.encoding ∧
      (body.length < maxSize → body.length ≤ frameLimits.maxSectionLen) ∧
      ∀ e ∈ config, e.Writable frameLimits := by
  unfold configSectionBody at h
  rw [if_neg (by simpa using hne)] at h
  split at h
  · next b hb =>
    cases h
    obtain ⟨h32, rfl, hfit, hall⟩ := encodeConfigStrings_eq_ok hb
    refine ⟨h32, by simp [Buffer.empty], fun hlt => ?_, hall⟩
    simpa [Buffer.empty] using hfit.add_le_capacity (by simpa [Buffer.empty] using hlt)
  · cases h

theorem entitiesSectionBody_eq_ok {B : Snapshot} {body : Bytes}
    (h : entitiesSectionBody schema B current limits frameLimits = .ok body) :
    ∃ count staged, (stageEntries schema limits (mergeSlots B.entities current.entities) 0).run
        (Buffer.empty frameLimits.maxSectionLen) = .ok count staged ∧
      count ≤ limits.maxEntries ∧ body = encodeVarint count ++ staged.data ∧
      (body.length < maxSize → body.length ≤ frameLimits.maxSectionLen) := by
  unfold entitiesSectionBody at h
  split at h
  · next n b hb =>
    cases h
    obtain ⟨count, staged, hstage, hmax, hfit, rfl⟩ := encodeBody_eq_ok hb
    refine ⟨count, staged, by simpa [Buffer.free, Buffer.empty] using hstage, hmax, by simp [Buffer.empty],
      fun hlt => ?_⟩
    simpa [Buffer.empty] using hfit.add_le_capacity (by simpa [Buffer.empty] using hlt)
  · cases h

/-- What a built message frame is made of: the header of its kind, consistent with the
baseline, and the sections of the config-string body and of the entities body, within the
largest message size. -/
theorem messageFrame_eq_ok {hdr : Header} {ss : List Section}
    (h : messageFrame schema kind current config limits frameLimits = .ok (hdr, ss)) :
    hdr = kind.header schema.fingerprint current.tick ∧
      (kind.header schema.fingerprint current.tick).baselineOk = true ∧
      ∃ configBody entities, configSectionBody config frameLimits = .ok configBody ∧
        entitiesSectionBody schema kind.baseline current limits frameLimits = .ok entities ∧
        ss = messageSections config configBody entities ∧
        headerSize + payloadSize ss ≤ frameLimits.maxMessageBytes := by
  unfold messageFrame at h
  dsimp only at h
  split at h
  · simp [throw, throwThe, MonadExceptOf.throw, bind, Except.bind] at h
  obtain ⟨base, hbase, h₁⟩ := Except.bind_eq_ok.mp h
  obtain ⟨cfg, hcfg, h₂⟩ := Except.bind_eq_ok.mp h₁
  obtain ⟨ents, hents, h₃⟩ := Except.bind_eq_ok.mp h₂
  obtain ⟨rfl, hok⟩ := MessageKind.baselineFor_eq_ok schema.fingerprint hbase
  split at h₃
  · simp [throw, throwThe, MonadExceptOf.throw, bind, Except.bind] at h₃
  · next hmsg =>
    simp only [pure, Except.pure, Except.ok.injEq, Prod.mk.injEq] at h₃
    obtain ⟨rfl, rfl⟩ := h₃
    exact ⟨rfl, hok, cfg, ents, hcfg, hents, rfl, Nat.le_of_not_lt hmsg⟩

theorem encodeSnapshotMessage_eq_ok {out out' : Buffer} {n : Nat}
    (h : (encodeSnapshotMessage schema kind current config limits frameLimits).run out = .ok n out') :
    ∃ hdr ss, messageFrame schema kind current config limits frameLimits = .ok (hdr, ss) ∧
      payloadSize ss < 2 ^ (32 : Nat) ∧ n = headerSize + payloadSize ss ∧
      out' = out.appended ({ hdr with payloadLen := UInt32.ofNat (payloadSize ss) }.encoding ++
        ss.flatMap Section.encoding) := by
  obtain ⟨⟨hdr, ss⟩, out₁, h₁, h₂⟩ := run_bind_eq_ok h
  obtain ⟨hframe, rfl⟩ := run_liftExcept_eq_ok h₁
  exact ⟨hdr, ss, hframe, encodeFrame_run_eq_ok (run_adaptExcept_eq_ok h₂)⟩

/-- A built frame, written out, is cut back into its header and its sections when the decoder
allows as many sections as it has. -/
theorem decodeFrame_messageFrame {hdr : Header} {ss : List Section}
    (h : messageFrame schema kind current config limits frameLimits = .ok (hdr, ss))
    (hp : payloadSize ss < 2 ^ (32 : Nat)) (hmachine : frameLimits.maxMessageBytes ≤ maxSize) :
    decodeFrame ({ hdr with payloadLen := UInt32.ofNat (payloadSize ss) }.encoding ++
        ss.flatMap Section.encoding) frameLimits =
      if ss.length ≤ frameLimits.maxSections then
        .ok ⟨{ hdr with payloadLen := UInt32.ofNat (payloadSize ss) }, ss⟩
      else .error (.limitExceeded .sectionCount frameLimits.maxSections (frameLimits.maxSections + 1)) := by
  obtain ⟨rfl, hok, cfg, ents, hcfg, hents, rfl, hmsg⟩ := messageFrame_eq_ok h
  refine decodeFrame_encoding (MessageKind.header_version _ _ _)
    (MessageKind.header_flags_isValid _ _ _) hok hp hmsg (fun s hs => ?_) ?_
  · -- a body is shorter than the message, so the bound its buffer checked is its real size
    have hlt : s.body.length < maxSize := by
      have := sectionLen_le_payloadSize hs
      unfold sectionLen at this
      omega
    obtain ⟨-, -, -, -, -, hents_len⟩ := entitiesSectionBody_eq_ok hents
    unfold messageSections at hs
    split at hs
    · simp only [List.nil_append, List.mem_singleton] at hs
      subst hs
      exact hents_len hlt
    · next hne =>
      simp only [List.cons_append, List.nil_append, List.mem_cons, List.not_mem_nil,
        or_false] at hs
      rcases hs with rfl | rfl
      · exact (configSectionBody_eq_ok (by simpa using hne) hcfg).2.2.1 hlt
      · exact hents_len hlt
  · unfold messageSections
    split <;> simp

theorem body?_entities_messageSections (hdr : Header) (cfg ents : Bytes) :
    (Frame.mk hdr (messageSections config cfg ents)).body? .entities = some ents := by
  unfold messageSections Frame.body?
  split <;> simp

/-- The config strings of a written message read back when there are at most
`maxConfigStrings` of them. -/
theorem configStrings_messageSections {hdr : Header} {cfg ents : Bytes}
    (hcfg : configSectionBody config frameLimits = .ok cfg) (hidx : ∀ e ∈ config, e.1 < 2 ^ (32 : Nat))
    (hsize : cfg.length < maxSize) :
    (Frame.mk hdr (messageSections config cfg ents)).configStrings frameLimits =
      if config.length ≤ frameLimits.maxConfigStrings then .ok config
      else .error (.frame (.limitExceeded .configStringCount frameLimits.maxConfigStrings
        config.length)) := by
  by_cases hne : config = []
  · subst hne
    simp [Frame.configStrings, Frame.body?, messageSections]
  · obtain ⟨h32, rfl, -, hall⟩ := configSectionBody_eq_ok hne hcfg
    have hbody : (Frame.mk hdr (messageSections config
        (encodeVarint config.length ++ config.flatMap ConfigEntry.encoding) ents)).body?
          .configStrings = some (encodeVarint config.length ++ config.flatMap ConfigEntry.encoding) := by
      simp [Frame.body?, messageSections, hne]
    rw [Frame.configStrings, hbody]
    simp only
    rw [decodeConfigStrings_encoding h32 (fun e he => ⟨hall e he, hidx e he⟩)
      (by simp only [List.length_append, length_encodeVarint] at hsize; omega)]
    split <;> rfl

/-- The header of a message of this kind names the baseline the kind carries, which the lookup
returns quantized. -/
theorem lookupBaseline_header {lookup : Tick → Option Snapshot} {hash : UInt64} {t : Tick}
    {p : UInt32} (hlookup : ∀ b, kind = .delta b → lookup b.tick = some (b.quantized schema)) :
    ({ kind.header hash t with payloadLen := p } : Header).lookupBaseline lookup =
      .ok (kind.baseline.quantized schema) := by
  cases kind with
  | delta b =>
    have hfound := hlookup b rfl
    simp [Header.lookupBaseline, MessageKind.header, show Flags.delta.isDelta = true by decide,
      hfound, Snapshot.quantized, MessageKind.baseline]
  | full =>
    simp [Header.lookupBaseline, MessageKind.header, show Flags.full.isDelta = false by decide,
      MessageKind.baseline, Snapshot.quantized, Snapshot.empty]
  | bootstrap =>
    simp [Header.lookupBaseline, MessageKind.header, show Flags.bootstrap.isDelta = false by decide,
      MessageKind.baseline, Snapshot.quantized, Snapshot.empty]

theorem length_configBody_lt {cfg ents : Bytes} (hcfg : configSectionBody config frameLimits = .ok cfg)
    (hmsg : headerSize + payloadSize (messageSections config cfg ents) ≤ frameLimits.maxMessageBytes)
    (hmachine : frameLimits.maxMessageBytes ≤ maxSize) : cfg.length < maxSize := by
  by_cases hne : config = []
  · subst hne
    simp only [configSectionBody, List.isEmpty_nil, if_true, Except.ok.injEq] at hcfg
    subst hcfg
    simp [maxSize]
  · have hs : ⟨.configStrings, cfg⟩ ∈ messageSections config cfg ents := by
      simp [messageSections, hne]
    have := sectionLen_le_payloadSize hs
    simp only [sectionLen] at this
    omega

/-- The frame of a built message, written out, reads back exactly when its sections and its
config strings are within the reader's count bounds, to its header with the payload length
filled in, its config strings and the quantized snapshot. -/
theorem decodeSnapshotMessage_messageFrame (lookup : Tick → Option Snapshot)
    (hk : schema.Bounded) (hBs : kind.baseline.Settled schema) (hCs : current.Settled schema)
    (hlookup : ∀ b, kind = .delta b → lookup b.tick = some (b.quantized schema))
    (hidx : ∀ e ∈ config, e.1 < 2 ^ (32 : Nat)) (hmachine : frameLimits.maxMessageBytes ≤ maxSize)
    {hdr : Header} {ss : List Section}
    (hframe : messageFrame schema kind current config limits frameLimits = .ok (hdr, ss))
    (hp : payloadSize ss < 2 ^ (32 : Nat)) :
    (decodeSnapshotMessage schema ({ hdr with payloadLen := UInt32.ofNat (payloadSize ss) }.encoding ++
        ss.flatMap Section.encoding) limits frameLimits lookup).toOption =
      if (if config.isEmpty then 1 else 2) ≤ frameLimits.maxSections ∧
          config.length ≤ frameLimits.maxConfigStrings then
        some ⟨{ hdr with payloadLen := UInt32.ofNat (payloadSize ss) }, config,
          current.quantized schema⟩
      else none := by
  have hdec := decodeFrame_messageFrame hframe hp hmachine
  obtain ⟨rfl, -, cfg, ents, hcfg, hents, rfl, hmsg⟩ := messageFrame_eq_ok hframe
  have hcount : (messageSections config cfg ents).length = if config.isEmpty then 1 else 2 := by
    unfold messageSections
    split <;> rfl
  have hcfgsize := length_configBody_lt hcfg hmsg hmachine
  obtain ⟨count, staged, hstage, hmax, rfl, -⟩ := entitiesSectionBody_eq_ok hents
  rw [hcount] at hdec
  -- the header the writer made, with its payload length, is kept whole from here on
  set hdr' : Header := { kind.header schema.fingerprint current.tick with
    payloadLen := UInt32.ofNat (payloadSize (messageSections config cfg
      (encodeVarint count ++ staged.data))) } with hhdr'
  have hhash : hdr'.schemaHash = schema.fingerprint := by simp [hhdr']
  have htick : hdr'.tick = current.tick := by simp [hhdr']
  have hcfgs : (Frame.mk hdr' (messageSections config cfg (encodeVarint count ++ staged.data))).configStrings
      frameLimits = _ := configStrings_messageSections hcfg hidx hcfgsize
  have hentities : (Frame.mk hdr' (messageSections config cfg
      (encodeVarint count ++ staged.data))).body? .entities = some (encodeVarint count ++ staged.data) :=
    body?_entities_messageSections hdr' cfg _
  have hbase : hdr'.lookupBaseline lookup = .ok (kind.baseline.quantized schema) :=
    lookupBaseline_header hlookup
  have hbody := decodeBody_staged hk hBs hCs hstage hmax current.tick
  unfold decodeSnapshotMessage
  by_cases hsec : (if config.isEmpty then 1 else 2) ≤ frameLimits.maxSections
  · -- the frame is cut into its sections; the count of config strings decides the rest
    rw [hdec, if_pos hsec]
    simp only [Except.mapError, bind, Except.bind, hhash, bne_self_eq_false, Bool.false_eq_true,
      if_false, hcfgs]
    by_cases hstr : config.length ≤ frameLimits.maxConfigStrings
    · rw [if_pos hstr, if_pos ⟨hsec, hstr⟩]
      simp only [hbase, hentities, Option.getD_some, htick, hbody, pure, Except.pure,
        Except.toOption]
      rfl
    · rw [if_neg hstr, if_neg (fun h => hstr h.2)]
      rfl
  · rw [hdec, if_neg hsec, if_neg (fun h => hsec h.1)]
    rfl

/-- A written snapshot message reads back exactly when its sections and config strings are within
the reader's bounds. -/
theorem decodeSnapshotMessage_encodeSnapshotMessage (lookup : Tick → Option Snapshot)
    (hk : schema.Bounded) (hBs : kind.baseline.Settled schema) (hCs : current.Settled schema)
    (hlookup : ∀ b, kind = .delta b → lookup b.tick = some (b.quantized schema))
    (hidx : ∀ e ∈ config, e.1 < 2 ^ (32 : Nat)) (hmachine : frameLimits.maxMessageBytes ≤ maxSize)
    {out out' : Buffer} {n : Nat}
    (henc : (encodeSnapshotMessage schema kind current config limits frameLimits).run out =
      .ok n out') :
    (decodeSnapshotMessage schema (out'.data.drop out.data.length) limits frameLimits
        lookup).toOption =
      if (if config.isEmpty then 1 else 2) ≤ frameLimits.maxSections ∧
          config.length ≤ frameLimits.maxConfigStrings then
        some ⟨{ kind.header schema.fingerprint current.tick with
          payloadLen := UInt32.ofNat (n - headerSize) }, config, current.quantized schema⟩
      else none := by
  obtain ⟨hdr, ss, hframe, hp, rfl, rfl⟩ := encodeSnapshotMessage_eq_ok henc
  have hread := decodeSnapshotMessage_messageFrame lookup hk hBs hCs hlookup hidx hmachine hframe hp
  obtain ⟨rfl, -⟩ := messageFrame_eq_ok hframe
  simpa using hread

/-- The full message of `unitsAfter` with the config string "arena" at index 0: a config-string
section and an entities section. -/
def arenaMessage : Bytes :=
  [83, 78, 80, 68, 1, 0, 1, 0, 92, 5, 161, 40, 21, 42, 25, 155, 6, 0, 0, 0, 0, 0, 0, 0, 31, 0, 0,
    0, 1, 8, 1, 0, 97, 114, 101, 110, 97, 0, 2, 19, 2, 3, 1, 3, 7, 90, 0, 0, 62, 97, 110, 110, 0,
    9, 1, 3, 1, 1, 0]

/-- Under the standard limits the message reads back whole. -/
theorem decodeSnapshotMessage_arena_standard :
    (encodeSnapshotMessage unitSchema .full unitsAfter [(0, "arena")] CodecLimits.standard
        FrameLimits.standard).run (Buffer.empty 65536) =
      .ok 59 ((Buffer.empty 65536).appended arenaMessage) ∧
    (decodeSnapshotMessage unitSchema arenaMessage CodecLimits.standard FrameLimits.standard
        fun _ => none).toOption =
      some ⟨{ MessageKind.full.header unitSchema.fingerprint 6 with payloadLen := 31 },
        [(0, "arena")], unitsAfter.quantized unitSchema⟩ := by
  have henc : (encodeSnapshotMessage unitSchema .full unitsAfter [(0, "arena")]
      CodecLimits.standard FrameLimits.standard).run (Buffer.empty 65536) =
      .ok 59 ((Buffer.empty 65536).appended arenaMessage) := by
    decide +kernel
  refine ⟨henc, ?_⟩
  have hdec := decodeSnapshotMessage_encodeSnapshotMessage (fun _ => none) (by decide) (by decide)
    (by decide) (fun b h => by cases h) (by decide) (by decide) henc
  simpa [Buffer.empty, FrameLimits.standard, headerSize, show unitsAfter.tick = 6 from rfl]
    using hdec

/-- A single config string puts a second section in the message, which a reader that allows one
section refuses, although the writer under the same limits wrote it. -/
theorem decodeSnapshotMessage_arena_refused :
    (encodeSnapshotMessage unitSchema .full unitsAfter [(0, "arena")] CodecLimits.standard
        { FrameLimits.standard with maxSections := 1 }).run (Buffer.empty 65536) =
      .ok 59 ((Buffer.empty 65536).appended arenaMessage) ∧
    (decodeSnapshotMessage unitSchema arenaMessage CodecLimits.standard
        { FrameLimits.standard with maxSections := 1 } fun _ => none).toOption = none := by
  have henc : (encodeSnapshotMessage unitSchema .full unitsAfter [(0, "arena")]
      CodecLimits.standard { FrameLimits.standard with maxSections := 1 }).run (Buffer.empty 65536) =
      .ok 59 ((Buffer.empty 65536).appended arenaMessage) := by
    decide +kernel
  refine ⟨henc, ?_⟩
  have hdec := decodeSnapshotMessage_encodeSnapshotMessage (fun _ => none) (by decide) (by decide)
    (by decide) (fun b h => by cases h) (by decide) (by decide) henc
  simpa [Buffer.empty] using hdec

end EntitySync
