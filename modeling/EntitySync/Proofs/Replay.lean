import EntitySync.Proofs.Recording
import EntitySync.Proofs.ConfigDelivery
import EntitySync.Demo.Playback
/-!
# Frames replay as they were recorded

A recording of frames is made of config strings set on the recorder and snapshots recorded as
frames: a bootstrap, with every string, when asked for or when there is no frame before it, and
otherwise a delta against the frame before it, with the strings set since. Playback decodes each
record against the frame it played last, sets the strings it carried, over none for a bootstrap,
and keeps the snapshot.

`playback_replays_frames`: every frame recorded successfully is played back in order as its
snapshot quantized, after which playback holds, at each index, the string the recorder held when
the frame was taken; then playback finds the end on every call. A frame that fails leaves the
recorder as it was, so the next delta is still taken against the frame played last.

The proof is a simulation. `FramesOk` is what the recorder keeps between calls, `Follows` ties
a playback to the recorder it has caught up with, and one call, played, keeps both
(`Follows.apply`); `Follows.run` extends this to every sequence of calls.
-/

namespace EntitySync

/-! ## Frames as the recorder records them -/

/-- A call of a recording of frames of `schema`: a config string at a 32-bit index, or a snapshot
whose states are settled. -/
def RecorderOp.FrameCall (schema : Schema) : RecorderOp → Prop
  | .setConfig index _ => index < 2 ^ (32 : Nat)
  | .snapshot s current => s = schema ∧ current.Settled schema
  | .bootstrap s current => s = schema ∧ current.Settled schema
  | _ => False

/-- A frame as it was recorded: its snapshot, quantized, and the values of the config strings the
recorder held. -/
structure RecordedFrame where
  snapshot : Snapshot
  strings : IndexTable String

namespace Recorder

variable {r : Recorder} {schema : Schema} {current : Snapshot} {bootstrap : Bool}

theorem flushLive_of_empty (h : r.live.data = []) : r.flushLive = .ok r := by
  simp [flushLive, h]

theorem liveRecord_of_empty (h : r.live.data = []) : r.liveRecord = [] := by
  simp [liveRecord, h]

/-- A frame is a bootstrap carrying every string, or a delta against the last frame carrying
those set since. -/
theorem frameKind_cases {last : Option Snapshot} {kind : MessageKind} {everything : Bool}
    (h : frameKind last bootstrap = (kind, everything)) :
    (kind = .bootstrap ∧ everything = true) ∨
      ∃ b, last = some b ∧ kind = .delta b ∧ everything = false := by
  unfold frameKind at h
  split at h <;> cases h
  · exact .inr ⟨_, rfl, rfl, rfl⟩
  · exact .inl ⟨rfl, rfl⟩

/-- With the live buffer empty, a frame either is recorded, its message written and its strings
marked as recorded, or fails and changes nothing. -/
theorem recordFrame_cases (hlive : r.live.data = []) (schema : Schema) (current : Snapshot)
    (bootstrap : Bool) :
    (∃ len out, r.frameMessage schema (current.quantized schema) bootstrap = .ok len out ∧
      Accepted r.config.maxMessageSize out.data ∧
      r.recordFrame schema current bootstrap =
        (.ok len, { r with file := r.file ++ recordBytes out.data, records := r.records + 1,
                           bytesWritten := r.bytesWritten + 4 + out.data.length,
                           strings := r.strings.map fun s => { s with dirty := false },
                           last := some (current.quantized schema) }) ∧
      r.frameWritten schema current bootstrap = [out.data]) ∨
    ((r.recordFrame schema current bootstrap).1.toBool = false ∧
      (r.recordFrame schema current bootstrap).2 = r ∧ r.frameWritten schema current bootstrap = []) := by
  unfold recordFrame frameWritten
  rw [flushLive_of_empty hlive]
  dsimp only
  rw [liveRecord_of_empty hlive, List.nil_append]
  rcases hmsg : r.frameMessage schema (current.quantized schema) bootstrap with ⟨len, out⟩ | ⟨e, out⟩
  · dsimp only
    rcases hput : r.putRecord out.data with e | r'
    · exact .inr ⟨rfl, rfl, rfl⟩
    · obtain ⟨hacc, rfl⟩ := putRecord_eq_ok hput
      exact .inl ⟨len, out, rfl, hacc, rfl, rfl⟩
  · exact .inr ⟨rfl, rfl, rfl⟩

/-- The values of the config strings a recorder holds. -/
def stringValues (r : Recorder) : IndexTable String := r.strings.map (·.value)

theorem get?_stringValues (r : Recorder) (i : Nat) :
    r.stringValues.get? i = (r.strings.get? i).map (·.value) :=
  IndexTable.get?_map _

/-- The frame a frame call records, with the strings held when it was taken, if it succeeds. -/
def frameRecorded (r : Recorder) (schema : Schema) (current : Snapshot) (bootstrap : Bool) :
    List RecordedFrame :=
  if (r.recordFrame schema current bootstrap).1.toBool then [⟨current.quantized schema, r.stringValues⟩]
  else []

/-- The frame a call records, if it records one. -/
def framesOf (r : Recorder) : RecorderOp → List RecordedFrame
  | .snapshot schema current => r.frameRecorded schema current r.last.isNone
  | .bootstrap schema current => r.frameRecorded schema current true
  | _ => []

/-- The frames calls record, in order. -/
def framesBy (r : Recorder) : List RecorderOp → List RecordedFrame
  | [] => []
  | op :: ops => r.framesOf op ++ framesBy (r.apply op) ops

/-- What a recorder of frames keeps: an empty live buffer, its config strings at 32-bit indices
below the frame limit, and a last frame settled and quantized. -/
structure FramesOk (schema : Schema) (r : Recorder) : Prop where
  live : r.live.data = []
  index_lt : ∀ i ∈ r.strings.entries.map Prod.fst, i < r.config.frame.maxConfigStrings ∧ i < 2 ^ (32 : Nat)
  last_ok : ∀ b, r.last = some b → b.Settled schema ∧ b.quantized schema = b

theorem FramesOk.recordFrame (h : r.FramesOk schema) (hCs : current.Settled schema)
    (bootstrap : Bool) :
    (r.recordFrame schema current bootstrap).2.FramesOk schema := by
  rcases recordFrame_cases h.live schema current bootstrap with ⟨len, out, -, -, hrec, -⟩ | ⟨-, hrec, -⟩
  · rw [hrec]
    refine ⟨h.live, ?_, ?_⟩
    · simpa only [IndexTable.keys_map] using h.index_lt
    · rintro b ⟨⟩
      exact ⟨hCs.quantized, Snapshot.quantized_quantized hCs⟩
  · rw [hrec]
    exact h

/-! ### The strings a frame carries -/

section Strings

variable {strings : IndexTable PendingString} {everything : Bool} {i : Nat}

theorem mem_frameStrings {e : ConfigEntry} :
    e ∈ frameStrings strings everything ↔
      ∃ s, (e.1, s) ∈ strings.entries ∧ (everything || s.dirty) = true ∧ e.2 = s.value := by
  obtain ⟨j, v⟩ := e
  simp only [frameStrings, List.mem_map, List.mem_filter, Prod.exists, Prod.mk.injEq]
  constructor
  · rintro ⟨j, s, ⟨hmem, hsel⟩, rfl, rfl⟩
    exact ⟨s, hmem, hsel, rfl⟩
  · rintro ⟨s, hmem, hsel, rfl⟩
    exact ⟨j, s, ⟨hmem, hsel⟩, rfl, rfl⟩

theorem frameStrings_entry {s : PendingString}
    (hget : strings.get? i = some s) {e : ConfigEntry} (he : e ∈ frameStrings strings everything)
    (hi : e.1 = i) : (everything || s.dirty) = true ∧ e.2 = s.value := by
  obtain ⟨s', hmem, hsel, hv⟩ := mem_frameStrings.mp he
  rw [hi, ← IndexTable.get?_eq_some_iff, hget, Option.some.injEq] at hmem
  subst hmem
  exact ⟨hsel, hv⟩

theorem frameStrings_unset (hget : strings.get? i = none) : ∀ e ∈ frameStrings strings everything, e.1 ≠ i := by
  intro e he hi
  obtain ⟨s, hmem, -, -⟩ := mem_frameStrings.mp he
  rw [hi, ← IndexTable.get?_eq_some_iff, hget] at hmem
  cases hmem

/-- A table that holds the recorder's value of every string recorded since it was set, and
nothing where the recorder has nothing, holds every value of the recorder once a frame's strings
are set over it; a bootstrap's are set over an empty table. -/
theorem get?_setAll_frameStrings {base : IndexTable String} (hunset : ∀ i, strings.get? i = none → base.get? i = none)
    (hclean : ∀ i s, strings.get? i = some s → s.dirty = false → base.get? i = some s.value)
    (everything : Bool) (i : Nat) :
    (IndexTable.setAll (if everything then .empty else base) (frameStrings strings everything)).get? i =
      (strings.get? i).map (·.value) := by
  cases hget : strings.get? i with
  | none =>
    rw [IndexTable.get?_setAll_of_forall_ne (frameStrings_unset hget)]
    split
    · rfl
    · exact hunset i hget
  | some s =>
    by_cases hsel : (everything || s.dirty) = true
    · exact IndexTable.get?_setAll_of_mem (fun e he hi => (frameStrings_entry hget he hi).2)
        ⟨(i, s.value), mem_frameStrings.mpr ⟨s, IndexTable.get?_eq_some_iff.mp hget, hsel, rfl⟩, rfl⟩
    · -- a delta that leaves the string out: the table already holds its value
      obtain ⟨rfl, hclean'⟩ : everything = false ∧ s.dirty = false := by simpa using hsel
      rw [IndexTable.get?_setAll_of_forall_ne (fun e he hi => hsel (frameStrings_entry hget he hi).1),
        if_neg Bool.false_ne_true]
      exact hclean i s hget hclean'

theorem length_le_of_keys_lt {α : Type} {t : IndexTable α} {n : Nat}
    (hlt : ∀ i ∈ t.entries.map Prod.fst, i < n) : t.entries.length ≤ n := by
  have hsub : (t.entries.map Prod.fst).Subperm (List.range n) :=
    List.Nodup.subperm (t.ascending.imp Nat.ne_of_lt) fun i hi => List.mem_range.mpr (hlt i hi)
  simpa using hsub.length_le

theorem length_frameStrings_le : (frameStrings strings everything).length ≤ strings.entries.length := by
  rw [frameStrings, List.length_map]
  exact List.length_filter_le _ _

end Strings

/-! ### Decoding a frame -/

theorem isBootstrap_frameKind {last : Option Snapshot} {kind : MessageKind} (hash : UInt64) (t : Tick)
    (p : UInt32) (hkind : frameKind last bootstrap = (kind, everything)) :
    ({ kind.header hash t with payloadLen := p } : Header).flags.isBootstrap = everything := by
  rcases frameKind_cases hkind with ⟨rfl, rfl⟩ | ⟨b, -, rfl, rfl⟩
  · exact (by decide : Flags.bootstrap.isBootstrap = true)
  · exact (by decide : Flags.delta.isBootstrap = false)

/-- The message of a frame reads back, against the frame before it, as the snapshot quantized
with the strings the frame carries, under a bootstrap's header exactly when it carries every
string. -/
theorem decode_frameMessage (hk : schema.Bounded) (hsections : 2 ≤ r.config.frame.maxSections)
    (hmachine : r.config.frame.maxMessageBytes ≤ maxSize) (h : r.FramesOk schema)
    (hCs : current.Settled schema) {len : Nat} {out : Buffer}
    (hmsg : r.frameMessage schema (current.quantized schema) bootstrap = .ok len out) :
    ∃ d, decodeSnapshotMessage schema out.data r.config.codec r.config.frame (fun _ => r.last) = .ok d ∧
      d.snapshot = current.quantized schema ∧
      d.header.flags.isBootstrap = (frameKind r.last bootstrap).2 ∧
      d.configStrings = frameStrings r.strings (frameKind r.last bootstrap).2 := by
  rcases hkind : frameKind r.last bootstrap with ⟨kind, everything⟩
  rw [frameMessage, hkind] at hmsg
  -- the baseline is empty, or the last frame, which the lookup finds at its own tick
  have hbase : kind.baseline.Settled schema ∧
      ∀ b, kind = .delta b → r.last = some (b.quantized schema) := by
    rcases frameKind_cases hkind with ⟨rfl, -⟩ | ⟨b, hb, rfl, -⟩
    · exact ⟨(fun e he => by cases he), fun b hb => by cases hb⟩
    · obtain ⟨hBs, hq⟩ := h.last_ok b hb
      refine ⟨hBs, ?_⟩
      rintro b' ⟨⟩
      rw [hb, hq]
  have hidx : ∀ e ∈ frameStrings r.strings everything, e.1 < 2 ^ (32 : Nat) := by
    intro e he
    obtain ⟨s, hmem, -, -⟩ := mem_frameStrings.mp he
    exact (h.index_lt e.1 (List.mem_map_of_mem (f := Prod.fst) hmem)).2
  have hcount : (frameStrings r.strings everything).length ≤ r.config.frame.maxConfigStrings :=
    Nat.le_trans length_frameStrings_le
      (length_le_of_keys_lt fun i hi => (h.index_lt i hi).1)
  have hread := decodeSnapshotMessage_encodeSnapshotMessage (fun _ => r.last) hk hbase.1
    hCs.quantized hbase.2 hidx hmachine hmsg
  rw [if_pos ⟨by split <;> omega, hcount⟩, Snapshot.quantized_quantized hCs] at hread
  simp only [Buffer.empty, List.length_nil, List.drop_zero] at hread
  cases hdec : decodeSnapshotMessage schema out.data r.config.codec r.config.frame (fun _ => r.last) with
  | error e => rw [hdec] at hread; cases hread
  | ok d =>
    rw [hdec, Except.toOption, Option.some.injEq] at hread
    subst hread
    exact ⟨_, rfl, rfl, isBootstrap_frameKind _ _ _ hkind, rfl⟩

theorem FramesOk.apply (h : r.FramesOk schema) {op : RecorderOp} (hop : op.FrameCall schema) :
    (r.apply op).FramesOk schema := by
  cases op with
  | setConfig index value =>
    simp only [Recorder.apply, setConfig]
    split
    · exact h
    · next hmax =>
      refine ⟨h.live, fun i hi => ?_, h.last_ok⟩
      rcases IndexTable.mem_map_fst_insertAt hi with hi | rfl
      · exact h.index_lt i hi
      · exact ⟨Nat.lt_of_not_le hmax, hop⟩
  | snapshot s current =>
    obtain ⟨rfl, hCs⟩ := hop
    exact h.recordFrame hCs _
  | bootstrap s current =>
    obtain ⟨rfl, hCs⟩ := hop
    exact h.recordFrame hCs _
  | message => exact hop.elim
  | writeLive => exact hop.elim
  | safeWrite => exact hop.elim

theorem FramesOk.run (h : r.FramesOk schema) {ops : List RecorderOp}
    (hops : ∀ op ∈ ops, op.FrameCall schema) : (r.run ops).FramesOk schema := by
  induction ops generalizing r with
  | nil => exact h
  | cons op ops ih =>
    exact ih (h.apply (hops op List.mem_cons_self)) fun op' hop' => hops op' (List.mem_cons_of_mem _ hop')

/-- With the live buffer empty, a frame that fails leaves the recorder as it was: the last frame
and the strings still to be sent stay. -/
theorem recordFrame_failed (hlive : r.live.data = [])
    (hfail : (r.recordFrame schema current bootstrap).1.toBool = false) :
    (r.recordFrame schema current bootstrap).2 = r := by
  rcases recordFrame_cases hlive schema current bootstrap with ⟨len, out, -, -, hrec, -⟩ | ⟨-, hrec, -⟩
  · rw [hrec] at hfail
    cases hfail
  · exact hrec

theorem stop_of_empty (hlive : r.live.data = []) :
    r.stop = .ok { r with file := r.file ++ toLE 4 endOfStream, bytesWritten := r.bytesWritten + 4 } := by
  rw [stop, flushLive_of_empty hlive]
  rfl

end Recorder

/-! ## Playing frames back -/

/-- A frame played back as it was recorded: playback gives its snapshot and then holds its
strings. -/
def RecordedFrame.Played (f : RecordedFrame) (o : Except DemoError (Option Snapshot) × Playback) :
    Prop :=
  o.1 = .ok (some f.snapshot) ∧ ∀ i, o.2.configString? i = f.strings.get? i

namespace Playback

variable {pb : Playback} {bytes more : Bytes}

/-- What `n` frames played in a row give, each with the playback after it. -/
def playN : Nat → Playback → List (Except DemoError (Option Snapshot) × Playback)
  | 0, _ => []
  | n + 1, pb => pb.nextFrame :: playN n pb.nextFrame.2

/-- The playback after `n` frames. -/
def after : Nat → Playback → Playback
  | 0, pb => pb
  | n + 1, pb => after n pb.nextFrame.2

theorem playN_add (m n : Nat) (pb : Playback) :
    pb.playN (m + n) = pb.playN m ++ (pb.after m).playN n := by
  induction m generalizing pb with
  | zero => simp [playN, after]
  | succ m ih => rw [Nat.succ_add, playN, playN, after, ih, List.cons_append]

theorem after_add (m n : Nat) (pb : Playback) : pb.after (m + n) = (pb.after m).after n := by
  induction m generalizing pb with
  | zero => simp [after]
  | succ m ih => rw [Nat.succ_add, after, after, ih]

theorem nextFrame_finished (hp : pb.player.finished = true) : pb.nextFrame = (.ok none, pb) := by
  simp [nextFrame, Player.readInto_finished hp]

theorem nextFrame_end (hp : pb.player.finished = false)
    (hrest : pb.player.source.rest = toLE 4 endOfStream ++ more) :
    pb.nextFrame = (.ok none,
      { pb with player := { pb.player with source := ⟨more, pb.player.source.pos + 4⟩, finished := true } }) := by
  simp [nextFrame, Player.readInto_end hp hrest]

/-- A record that fits the buffer and decodes against the last frame is played: playback takes its
snapshot, and its strings over those held, or over none for a bootstrap. -/
theorem nextFrame_record (hp : pb.player.finished = false)
    (hrest : pb.player.source.rest = recordBytes bytes ++ more) (hlen : bytes.length < endOfStream)
    (hcap : bytes.length ≤ pb.buffer.capacity) {d : DecodedMessage}
    (hdec : decodeSnapshotMessage pb.schema bytes pb.config.codec pb.config.frame (fun _ => pb.state) = .ok d) :
    pb.nextFrame = (.ok (some d.snapshot),
      { pb with player := { pb.player with source := ⟨more, pb.player.source.pos + 4 + bytes.length⟩,
                                           records := pb.player.records + 1 },
                buffer := ⟨bytes, pb.buffer.capacity, 0⟩, state := some d.snapshot,
                strings := IndexTable.setAll (if d.header.flags.isBootstrap then .empty else pb.strings)
                  d.configStrings }) := by
  simp [nextFrame, Player.readInto_record hp hrest hlen hcap, hdec]

theorem playN_finished (hp : pb.player.finished = true) (k : Nat) :
    (pb.playN k).map Prod.fst = List.replicate k (.ok none) := by
  induction k with
  | zero => rfl
  | succ k ih => simp only [playN, nextFrame_finished hp, List.map_cons, ih, List.replicate_succ]

theorem playN_end (hp : pb.player.finished = false)
    (hrest : pb.player.source.rest = toLE 4 endOfStream ++ more) (k : Nat) :
    (pb.playN k).map Prod.fst = List.replicate k (.ok none) := by
  cases k with
  | zero => rfl
  | succ k =>
    rw [playN, nextFrame_end hp hrest, List.map_cons, playN_finished rfl, List.replicate_succ]

theorem load_metadataRecord {m : DemoMetadata} {config : DemoConfig}
    (hfit : m.encodedLen ≤ config.metadataMaxSize) (hblock : 16 + config.metadataMaxSize < 2 ^ (31 : Nat))
    (schema : Schema) (rest : Bytes) :
    load (metadataRecord m config.metadataMaxSize ++ rest) schema config =
      .ok ⟨⟨⟨rest, metadataRecordLen config.metadataMaxSize⟩, m, config.metadataMaxSize, 0, false⟩,
        schema, config, Buffer.empty config.maxMessageSize, none, .empty⟩ := by
  rw [load, Player.load_metadataRecord hfit hblock]
  rfl

end Playback

/-! ## Playback follows the recorder -/

/-- A playback follows a recorder of frames of `schema` when it has played every frame recorded so
far: it holds the last frame, the recorder's value of every string recorded since it was set and
no string the recorder lacks, reads with the recorder's settings into a buffer of the largest
record, and has not found the end. -/
structure Follows (schema : Schema) (r : Recorder) (pb : Playback) : Prop where
  schema_eq : pb.schema = schema
  config_eq : pb.config = r.config
  capacity : pb.buffer.capacity = r.config.maxMessageSize
  unfinished : pb.player.finished = false
  state : pb.state = r.last
  unset : ∀ i, r.strings.get? i = none → pb.strings.get? i = none
  clean : ∀ i s, r.strings.get? i = some s → s.dirty = false → pb.strings.get? i = some s.value

namespace Follows

open Recorder Playback

variable {schema : Schema} {r : Recorder} {pb : Playback} {more : Bytes}

theorem setConfig (hf : Follows schema r pb) (index : Nat) (value : String) :
    Follows schema (r.apply (.setConfig index value)) pb := by
  simp only [Recorder.apply, Recorder.setConfig]
  split
  · exact hf
  · show Follows schema { r with strings := r.strings.set index ⟨value, true⟩ } pb
    refine ⟨hf.schema_eq, hf.config_eq, hf.capacity, hf.unfinished, hf.state, fun i hi => ?_, fun i s hi hs => ?_⟩
    · rw [IndexTable.get?_set] at hi
      split at hi
      · cases hi
      · exact hf.unset i hi
    · rw [IndexTable.get?_set] at hi
      split at hi
      · cases hi
        cases hs
      · exact hf.clean i s hi hs

/-- A frame call, played: a recorded frame is played back from its record with the strings the
recorder held, and playback then follows the recorder again; a failed one writes nothing and
changes nothing. -/
theorem recordFrame (hk : schema.Bounded) (hsections : 2 ≤ r.config.frame.maxSections)
    (hmachine : r.config.frame.maxMessageBytes ≤ maxSize) (h : r.FramesOk schema)
    (hf : Follows schema r pb) {current : Snapshot} (hCs : current.Settled schema) (bootstrap : Bool)
    (hrest : pb.player.source.rest = (r.frameWritten schema current bootstrap).flatMap recordBytes ++ more) :
    List.Forall₂ RecordedFrame.Played (r.frameRecorded schema current bootstrap)
        (pb.playN (r.frameRecorded schema current bootstrap).length) ∧
      Follows schema (r.recordFrame schema current bootstrap).2
        (pb.after (r.frameRecorded schema current bootstrap).length) ∧
      (pb.after (r.frameRecorded schema current bootstrap).length).player.source.rest = more := by
  rcases recordFrame_cases h.live schema current bootstrap with
    ⟨len, out, hmsg, hacc, hrec, hw⟩ | ⟨hfail, hrec, hw⟩
  · rw [hw, List.flatMap_cons, List.flatMap_nil, List.append_nil] at hrest
    obtain ⟨d, hdec, hsnap, hboot, hstrs⟩ := decode_frameMessage hk hsections hmachine h hCs hmsg
    rw [← hf.schema_eq, ← hf.config_eq, ← hf.state] at hdec
    have hnext := nextFrame_record hf.unfinished hrest hacc.2 (hf.capacity ▸ hacc.1) hdec
    have hframes : r.frameRecorded schema current bootstrap =
        [⟨current.quantized schema, r.stringValues⟩] := by
      rw [frameRecorded, hrec]
      rfl
    have hstrings : ∀ i, IndexTable.get?
        (IndexTable.setAll (if d.header.flags.isBootstrap then .empty else pb.strings) d.configStrings) i =
          (r.strings.get? i).map (·.value) := by
      intro i
      rw [hboot, hstrs]
      exact get?_setAll_frameStrings hf.unset hf.clean _ i
    have hclean : ∀ i, IndexTable.get? (r.strings.map fun s => { s with dirty := false }) i =
        (r.strings.get? i).map fun s => { s with dirty := false } :=
      fun i => IndexTable.get?_map _
    rw [hframes, hrec]
    simp only [List.length_singleton, playN, after, hnext]
    refine ⟨.cons ⟨by rw [hsnap], fun i => ?_⟩ .nil, ⟨hf.schema_eq, hf.config_eq, hf.capacity,
      hf.unfinished, by rw [hsnap], fun i hi => ?_, fun i s hi hs => ?_⟩, trivial⟩
    · rw [configString?, hstrings i]
      exact (get?_stringValues r i).symm
    · rw [hclean i, Option.map_eq_none_iff] at hi
      rw [hstrings i, hi, Option.map_none]
    · rw [hclean i] at hi
      obtain ⟨s₀, hs₀, rfl⟩ := Option.map_eq_some_iff.mp hi
      rw [hstrings i, hs₀, Option.map_some]
  · rw [hw, List.flatMap_nil, List.nil_append] at hrest
    have hframes : r.frameRecorded schema current bootstrap = [] := by
      rw [frameRecorded, if_neg (by rw [hfail]; exact Bool.false_ne_true)]
    rw [hframes, hrec]
    exact ⟨.nil, hf, hrest⟩

theorem apply (hk : schema.Bounded) (hsections : 2 ≤ r.config.frame.maxSections)
    (hmachine : r.config.frame.maxMessageBytes ≤ maxSize) (h : r.FramesOk schema)
    (hf : Follows schema r pb) {op : RecorderOp} (hop : op.FrameCall schema)
    (hrest : pb.player.source.rest = (r.written op).flatMap recordBytes ++ more) :
    List.Forall₂ RecordedFrame.Played (r.framesOf op) (pb.playN (r.framesOf op).length) ∧
      Follows schema (r.apply op) (pb.after (r.framesOf op).length) ∧
      (pb.after (r.framesOf op).length).player.source.rest = more := by
  cases op with
  | setConfig index value =>
    rw [written, List.flatMap_nil, List.nil_append] at hrest
    exact ⟨.nil, hf.setConfig index value, hrest⟩
  | snapshot s current =>
    obtain ⟨rfl, hCs⟩ := hop
    exact hf.recordFrame hk hsections hmachine h hCs _ hrest
  | bootstrap s current =>
    obtain ⟨rfl, hCs⟩ := hop
    exact hf.recordFrame hk hsections hmachine h hCs _ hrest
  | message => exact hop.elim
  | writeLive => exact hop.elim
  | safeWrite => exact hop.elim

/-- Calls of a recording of frames, played: the frames they record are played back in order from
the records they wrote, and playback then follows the recorder they leave. -/
theorem run (hk : schema.Bounded) (hsections : 2 ≤ r.config.frame.maxSections)
    (hmachine : r.config.frame.maxMessageBytes ≤ maxSize) (h : r.FramesOk schema)
    (hf : Follows schema r pb) {ops : List RecorderOp} (hops : ∀ op ∈ ops, op.FrameCall schema)
    (hrest : pb.player.source.rest = (r.writtenBy ops).flatMap recordBytes ++ more) :
    List.Forall₂ RecordedFrame.Played (r.framesBy ops) (pb.playN (r.framesBy ops).length) ∧
      Follows schema (r.run ops) (pb.after (r.framesBy ops).length) ∧
      (pb.after (r.framesBy ops).length).player.source.rest = more := by
  induction ops generalizing r pb with
  | nil => exact ⟨.nil, hf, hrest⟩
  | cons op ops ih =>
    have hop := hops op List.mem_cons_self
    have hconfig := (apply_appends r op).config
    rw [writtenBy, List.flatMap_append, List.append_assoc] at hrest
    obtain ⟨hplayed, hf', hrest'⟩ := hf.apply hk hsections hmachine h hop hrest
    obtain ⟨hplayed', hf'', hrest''⟩ := ih (hconfig ▸ hsections) (hconfig ▸ hmachine) (h.apply hop) hf'
      (fun op' hop' => hops op' (List.mem_cons_of_mem _ hop')) hrest'
    rw [framesBy, List.length_append, playN_add, after_add]
    exact ⟨List.rel_append hplayed hplayed', hf'', hrest''⟩

end Follows

open Recorder in
/-- Frames replay exactly: playback gives each recorded frame's snapshot, quantized, with the
config strings the recorder held, and then the end. -/
theorem playback_replays_frames {schema : Schema} {config : DemoConfig} {m : DemoMetadata}
    (hk : schema.Bounded) (hsections : 2 ≤ config.frame.maxSections)
    (hmachine : config.frame.maxMessageBytes ≤ maxSize)
    (hfit : m.encodedLen ≤ config.metadataMaxSize) (hblock : 16 + config.metadataMaxSize < 2 ^ (31 : Nat))
    (ops : List RecorderOp) (hops : ∀ op ∈ ops, op.FrameCall schema) :
    ∃ r, start m config = .ok r ∧
      (∀ n current bootstrap, ((r.run (ops.take n)).recordFrame schema current bootstrap).1.toBool = false →
        ((r.run (ops.take n)).recordFrame schema current bootstrap).2 = r.run (ops.take n)) ∧
      ∃ done, (r.run ops).stop = .ok done ∧
        ∃ pb, Playback.load done.file schema config = .ok pb ∧
          List.Forall₂ RecordedFrame.Played (r.framesBy ops) (pb.playN (r.framesBy ops).length) ∧
          ∀ k, ((pb.after (r.framesBy ops).length).playN k).map Prod.fst = List.replicate k (.ok none) := by
  refine ⟨_, start_eq_ok hfit hblock, ?_⟩
  set r₀ : Recorder := ⟨config, metadataRecord m config.metadataMaxSize,
    Buffer.empty config.maxMessageSize, .empty, none, 0, metadataRecordLen config.metadataMaxSize⟩
  have h₀ : r₀.FramesOk schema :=
    ⟨rfl, (fun i hi => by simp [r₀, IndexTable.empty] at hi), fun b hb => by simp [r₀] at hb⟩
  have hrun := h₀.run hops
  refine ⟨fun n current bootstrap hfail =>
    recordFrame_failed (h₀.run fun op hop => hops op (List.mem_of_mem_take hop)).live hfail, ?_⟩
  refine ⟨_, stop_of_empty hrun.live, ?_⟩
  have hfile : (r₀.run ops).file ++ toLE 4 endOfStream =
      metadataRecord m config.metadataMaxSize ++
        ((r₀.writtenBy ops).flatMap recordBytes ++ (toLE 4 endOfStream ++ [])) := by
    rw [(run_appends r₀ ops).file, List.append_nil, List.append_assoc]
  refine ⟨_, by rw [hfile, Playback.load_metadataRecord hfit hblock], ?_⟩
  have hf₀ : Follows schema r₀
      ⟨⟨⟨(r₀.writtenBy ops).flatMap recordBytes ++ (toLE 4 endOfStream ++ []),
        metadataRecordLen config.metadataMaxSize⟩, m, config.metadataMaxSize, 0, false⟩,
        schema, config, Buffer.empty config.maxMessageSize, none, .empty⟩ :=
    ⟨rfl, rfl, rfl, rfl, rfl, fun _ _ => rfl, fun i s hi => by cases hi⟩
  obtain ⟨hplayed, hf, hrest⟩ := hf₀.run hk hsections hmachine h₀ hops rfl
  exact ⟨hplayed, Playback.playN_end hf.unfinished hrest⟩

/-- The test settings, empty metadata, and a string set before the units are recorded as a first
frame, as a delta against it, and as a bootstrap. -/
theorem playback_replays_frames_units :
    let ops := [RecorderOp.setConfig 0 "arena", .snapshot unitSchema unitsBefore,
      .snapshot unitSchema unitsAfter, .bootstrap unitSchema unitsAfter]
    unitSchema.Bounded ∧ 2 ≤ DemoConfig.testing.frame.maxSections ∧
      DemoConfig.testing.frame.maxMessageBytes ≤ maxSize ∧
      DemoMetadata.empty.encodedLen ≤ DemoConfig.testing.metadataMaxSize ∧
      16 + DemoConfig.testing.metadataMaxSize < 2 ^ (31 : Nat) ∧ (∀ op ∈ ops, op.FrameCall unitSchema) ∧
      ∃ r, Recorder.start DemoMetadata.empty DemoConfig.testing = .ok r ∧
        (∀ n current bootstrap,
          ((r.run (ops.take n)).recordFrame unitSchema current bootstrap).1.toBool = false →
            ((r.run (ops.take n)).recordFrame unitSchema current bootstrap).2 = r.run (ops.take n)) ∧
        ∃ done, (r.run ops).stop = .ok done ∧
          ∃ pb, Playback.load done.file unitSchema DemoConfig.testing = .ok pb ∧
            List.Forall₂ RecordedFrame.Played (r.framesBy ops) (pb.playN (r.framesBy ops).length) ∧
            ∀ k, ((pb.after (r.framesBy ops).length).playN k).map Prod.fst =
              List.replicate k (.ok none) := by
  intro ops
  have hB : unitsBefore.Settled unitSchema := by decide
  have hA : unitsAfter.Settled unitSchema := by decide
  have hops : ∀ op ∈ ops, op.FrameCall unitSchema := by
    simp only [ops, List.mem_cons, List.not_mem_nil, or_false]
    rintro op (rfl | rfl | rfl | rfl)
    · exact (by decide : 0 < 2 ^ (32 : Nat))
    · exact ⟨rfl, hB⟩
    · exact ⟨rfl, hA⟩
    · exact ⟨rfl, hA⟩
  exact ⟨by decide, by decide, by decide, by decide, by decide, hops,
    playback_replays_frames (by decide) (by decide) (by decide) (by decide) (by decide) ops hops⟩

end EntitySync
