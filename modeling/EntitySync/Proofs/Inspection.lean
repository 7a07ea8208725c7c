import EntitySync.Proofs.MetadataRecord
import EntitySync.Inspect.Report
/-!
# Inspecting recordings cut short

`inspectDemo` reports a recording that was cut short as incomplete rather than refusing it.
Take a recording that a recorder made and stopped, and cut it after its first `k` bytes
(`truncated_recordings_reported`): a cut inside the metadata record is refused; a cut after it
and before the end gives the recorded metadata and exactly the records that lie wholly before
the cut, marked incomplete; and the whole recording gives every record, marked complete.

`recordsWithin recs room` are the records among `recs`, laid out one after another, that lie
wholly within the first `room` bytes. `inspectRecords_take` reads any cut of the records and the
end marker into their reports, one record at a time.
-/

namespace EntitySync

/-! ## Records before a cut -/

/-- The records among `recs`, laid out one after another, that lie wholly within the first
`room` bytes. -/
def recordsWithin : List Bytes → Nat → List Bytes
  | [], _ => []
  | b :: recs, room =>
    if 4 + b.length ≤ room then b :: recordsWithin recs (room - (4 + b.length)) else []

theorem length_recordBytes (b : Bytes) : (recordBytes b).length = 4 + b.length := by
  simp [recordBytes]

theorem recordsWithin_eq_take (recs : List Bytes) (room : Nat) :
    ∃ j, recordsWithin recs room = recs.take j ∧
      ((recs.take j).flatMap recordBytes).length ≤ room ∧
      (j < recs.length → room < ((recs.take (j + 1)).flatMap recordBytes).length) := by
  induction recs generalizing room with
  | nil => exact ⟨0, rfl, by simp, by simp⟩
  | cons b recs ih =>
    by_cases hfit : 4 + b.length ≤ room
    · obtain ⟨j, hj, hle, hnext⟩ := ih (room - (4 + b.length))
      refine ⟨j + 1, by rw [recordsWithin, if_pos hfit, hj, List.take_succ_cons], ?_, fun hlt => ?_⟩
      · simp only [List.take_succ_cons, List.flatMap_cons, List.length_append, length_recordBytes]
        omega
      · have hrest := hnext (by simpa using hlt)
        simp only [List.take_succ_cons, List.flatMap_cons, List.length_append, length_recordBytes]
        omega
    · refine ⟨0, by rw [recordsWithin, if_neg hfit, List.take_zero], by simp, fun _ => ?_⟩
      simp only [List.take_succ_cons, List.take_zero, List.flatMap_cons, List.flatMap_nil,
        List.append_nil, length_recordBytes]
      omega

theorem recordsWithin_of_le {recs : List Bytes} {room : Nat}
    (h : (recs.flatMap recordBytes).length ≤ room) : recordsWithin recs room = recs := by
  induction recs generalizing room with
  | nil => rfl
  | cons b recs ih =>
    simp only [List.flatMap_cons, List.length_append, length_recordBytes] at h
    rw [recordsWithin, if_pos (by omega), ih (by omega)]

theorem length_recordsWithin_le (recs : List Bytes) (room : Nat) :
    4 * (recordsWithin recs room).length ≤ room := by
  induction recs generalizing room with
  | nil => simp [recordsWithin]
  | cons b recs ih =>
    rw [recordsWithin]
    split_ifs with hfit
    · have := ih (room - (4 + b.length))
      simp only [List.length_cons]
      omega
    · simp

/-- The reports of records read in order, numbered from `start`. -/
def recordReports (config : DemoConfig) (hash : Option Nat) (start : Nat) (recs : List Bytes) :
    List RecordReport :=
  (recs.zipIdx start).map fun (b, i) => ⟨i, b.length, inspectFrame b config.frame hash⟩

theorem recordReports_cons (config : DemoConfig) (hash : Option Nat) (start : Nat) (b : Bytes)
    (recs : List Bytes) :
    recordReports config hash start (b :: recs) =
      ⟨start, b.length, inspectFrame b config.frame hash⟩ :: recordReports config hash (start + 1) recs := by
  simp [recordReports, List.zipIdx_cons]

theorem len_recordReports (config : DemoConfig) (hash : Option Nat) (start : Nat) (recs : List Bytes) :
    (recordReports config hash start recs).map (·.len) = recs.map List.length := by
  induction recs generalizing start with
  | nil => rfl
  | cons b recs ih => simp [recordReports_cons, ih]

/-- The report of a recording of the metadata `m`, in the configured block, of which the records
`recs` were read, complete or cut short. -/
def DemoReport.ofRecords (config : DemoConfig) (hash : Option Nat) (m : DemoMetadata)
    (recs : List Bytes) (complete : Bool) : DemoReport :=
  ⟨m.entries, config.metadataMaxSize, recordReports config hash 0 recs, (recs.map List.length).sum,
    complete⟩

/-! ## Reading a cut -/

namespace Player

variable {p : Player} {msg : Buffer}

theorem readInto_short (hp : p.finished = false) (hshort : p.source.rest.length < 4) :
    (p.readInto msg).1 = .error (.truncated p.records) := by
  simp [readInto, hp, Source.readWord, Source.readExact, Nat.not_le.mpr hshort, Except.map, cutShort]

theorem readInto_cut {b pre : Bytes} (hp : p.finished = false)
    (hrest : p.source.rest = toLE 4 b.length ++ pre) (hpre : pre.length < b.length)
    (hacc : Accepted msg.capacity b) :
    (p.readInto msg).1 = .error (.truncated p.records) := by
  have hword := readWord_of_rest hrest (show b.length < 2 ^ (32 : Nat) by unfold Accepted endOfStream at hacc; omega)
  simp [readInto, hp, hword, Nat.ne_of_lt hacc.2, Nat.not_lt.mpr hacc.1, Source.readExact,
    Nat.not_le.mpr hpre, cutShort]

theorem readInto_take_record {b more : Bytes} {room : Nat} (hp : p.finished = false)
    (hrest : p.source.rest = (recordBytes b ++ more).take room) (hroom : room < 4 + b.length)
    (hacc : Accepted msg.capacity b) :
    (p.readInto msg).1 = .error (.truncated p.records) := by
  by_cases hshort : room < 4
  · refine readInto_short hp ?_
    rw [hrest, List.length_take]
    omega
  · have hcut : p.source.rest = toLE 4 b.length ++ b.take (room - 4) := by
      rw [hrest, recordBytes, List.append_assoc, List.take_append,
        List.take_of_length_le (by simp; omega), length_toLE, List.take_append_of_le_length (by omega)]
    exact readInto_cut hp hcut (by rw [List.length_take]; omega) hacc

end Player

section Step

variable {config : DemoConfig} {hash : Option Nat} {fuel : Nat} {p : Player} {msg : Buffer}
  {acc : List RecordReport}

theorem inspectRecords_of_record {b more : Bytes} (hp : p.finished = false)
    (hrest : p.source.rest = recordBytes b ++ more) (hacc : Accepted msg.capacity b) :
    inspectRecords config hash (fuel + 1) p msg acc =
      inspectRecords config hash fuel
        { p with source := ⟨more, p.source.pos + 4 + b.length⟩, records := p.records + 1 }
        ⟨b, msg.capacity, 0⟩ (⟨acc.length, b.length, inspectFrame b config.frame hash⟩ :: acc) := by
  rw [inspectRecords, Player.readInto_record hp hrest hacc.2 hacc.1]
  rfl

theorem inspectRecords_of_end {more : Bytes} (hp : p.finished = false)
    (hrest : p.source.rest = toLE 4 endOfStream ++ more) :
    inspectRecords config hash (fuel + 1) p msg acc = .ok (acc.reverse, true) := by
  rw [inspectRecords, Player.readInto_end hp hrest]

theorem inspectRecords_of_truncated {n : Nat} (h : (p.readInto msg).1 = .error (.truncated n)) :
    inspectRecords config hash (fuel + 1) p msg acc = .ok (acc.reverse, false) := by
  rcases hread : p.readInto msg with ⟨r, p', msg'⟩
  rw [hread] at h
  subst h
  rw [inspectRecords, hread]

end Step

/-- Any cut of records and the end marker is read into the reports of the records wholly before
the cut, numbered after those already made; the recording is complete exactly when the cut keeps
the whole end marker. -/
theorem inspectRecords_take (config : DemoConfig) (hash : Option Nat) (recs : List Bytes)
    {room fuel : Nat} {p : Player} {msg : Buffer} {acc : List RecordReport}
    (hacc : ∀ b ∈ recs, Accepted msg.capacity b) (hp : p.finished = false)
    (hrest : p.source.rest = (recs.flatMap recordBytes ++ toLE 4 endOfStream).take room)
    (hroom : room ≤ (recs.flatMap recordBytes).length + 4)
    (hfuel : (recordsWithin recs room).length < fuel) :
    inspectRecords config hash fuel p msg acc =
      .ok (acc.reverse ++ recordReports config hash acc.length (recordsWithin recs room),
        decide (room = (recs.flatMap recordBytes).length + 4)) := by
  obtain ⟨fuel, rfl⟩ : ∃ f, fuel = f + 1 := ⟨fuel - 1, by omega⟩
  -- induction on the records, each read whole or cut; the fuel always covers the reads left
  induction recs generalizing p msg acc room fuel with
  | nil =>
    simp only [List.flatMap_nil, List.nil_append, List.length_nil, Nat.zero_add] at hrest hroom ⊢
    by_cases hend : room = 4
    · -- the whole end marker is there
      subst hend
      have hmarker : p.source.rest = toLE 4 endOfStream ++ [] := by
        rw [hrest, List.append_nil, List.take_of_length_le (by simp)]
      rw [inspectRecords_of_end hp hmarker]
      simp [recordsWithin, recordReports]
    · have hshort : p.source.rest.length < 4 := by
        rw [hrest, List.length_take, length_toLE]
        omega
      rw [inspectRecords_of_truncated (Player.readInto_short hp hshort)]
      simp [recordsWithin, recordReports, hend]
  | cons b recs ih =>
    have hb := hacc b List.mem_cons_self
    rw [List.flatMap_cons, List.append_assoc] at hrest
    have hlen : ((b :: recs).flatMap recordBytes).length =
        4 + b.length + (recs.flatMap recordBytes).length := by
      simp only [List.flatMap_cons, List.length_append, length_recordBytes]
    by_cases hfit : 4 + b.length ≤ room
    · -- the record lies wholly before the cut, is read whole, and the rest of the cut follows
      rw [List.take_append, List.take_of_length_le (by rw [length_recordBytes]; omega),
        length_recordBytes] at hrest
      rw [recordsWithin, if_pos hfit, List.length_cons] at hfuel
      cases fuel with
      | zero => omega
      | succ fuel =>
        rw [inspectRecords_of_record hp hrest hb]
        refine (@ih (room - (4 + b.length)) _ _ _ ?_ ?_ ?_ (by omega) fuel (by omega)).trans ?_
        · exact fun b' hb' => hacc b' (List.mem_cons_of_mem _ hb')
        · exact hp
        · rfl
        have hdone : decide (room - (4 + b.length) = (recs.flatMap recordBytes).length + 4) =
            decide (room = ((b :: recs).flatMap recordBytes).length + 4) :=
          decide_eq_decide.mpr (by omega)
        rw [hdone, recordsWithin, if_pos hfit, recordReports_cons]
        simp
    · -- the cut falls inside the record
      rw [inspectRecords_of_truncated (Player.readInto_take_record hp hrest (by omega) hb),
        recordsWithin, if_neg hfit, decide_eq_false (by omega)]
      simp [recordReports]

/-! ## A recording and its cuts -/

namespace Recorder

variable {r done : Recorder}

theorem start_eq_ok_inv {m : DemoMetadata} {config : DemoConfig}
    (hsize : config.metadataMaxSize < 2 ^ (63 : Nat)) (h : start m config = .ok r) :
    m.encodedLen ≤ config.metadataMaxSize ∧ 16 + config.metadataMaxSize < 2 ^ (31 : Nat) ∧
      r = ⟨config, metadataRecord m config.metadataMaxSize, Buffer.empty config.maxMessageSize, .empty,
        none, 0, metadataRecordLen config.metadataMaxSize⟩ := by
  obtain ⟨head, hhead, h⟩ := Except.bind_eq_ok.mp h
  obtain ⟨hfit, hwide, -⟩ := writeMetadataRecord_eq_ok_inv hsize (Except.mapError_eq_ok.mp hhead)
  rw [writeMetadataRecord_eq_ok hfit hwide] at hhead
  cases Except.mapError_eq_ok.mp hhead
  exact ⟨hfit, hwide, (Except.ok.inj h).symm⟩

theorem stop_eq_ok_inv (h : r.stop = .ok done) :
    done.file = r.file ++ r.liveRecord.flatMap recordBytes ++ toLE 4 endOfStream ∧
      ∀ b ∈ r.liveRecord, Accepted r.config.maxMessageSize b := by
  obtain ⟨r', hflush, h⟩ := Except.bind_eq_ok.mp h
  have happ := (flushLive_eq_ok hflush).1
  cases Except.ok.inj h
  exact ⟨by rw [← happ.file], happ.accepted⟩

/-- A recording made and stopped is its metadata record, every record it wrote, and the end
marker; a reader with the configured maximum accepts each record. -/
theorem recording_layout {m : DemoMetadata} {config : DemoConfig} {ops : List RecorderOp}
    (hsize : config.metadataMaxSize < 2 ^ (63 : Nat)) (hstart : start m config = .ok r)
    (hstop : (r.run ops).stop = .ok done) :
    m.encodedLen ≤ config.metadataMaxSize ∧ 16 + config.metadataMaxSize < 2 ^ (31 : Nat) ∧
      done.file = metadataRecord m config.metadataMaxSize ++
        ((r.recordedBy ops).flatMap recordBytes ++ toLE 4 endOfStream) ∧
      ∀ b ∈ r.recordedBy ops, Accepted config.maxMessageSize b := by
  obtain ⟨hfit, hwide, hr⟩ := start_eq_ok_inv hsize hstart
  have hrun := run_appends r ops
  obtain ⟨hfile, hlive⟩ := stop_eq_ok_inv hstop
  have hconfig : r.config = config := by rw [hr]
  refine ⟨hfit, hwide, ?_, fun b hb => ?_⟩
  · rw [hfile, hrun.file, recordedBy, List.flatMap_append, hr]
    simp only [List.append_assoc]
  · rcases List.mem_append.mp hb with hb | hb
    · exact hconfig ▸ hrun.accepted b hb
    · exact hconfig ▸ hrun.config ▸ hlive b hb

end Recorder

theorem Player.load_take {m : DemoMetadata} {config : DemoConfig}
    (hfit : m.encodedLen ≤ config.metadataMaxSize) (hblock : 16 + config.metadataMaxSize < 2 ^ (31 : Nat))
    (rest : Bytes) {k : Nat} (hk : metadataRecordLen config.metadataMaxSize ≤ k) :
    Player.load ((metadataRecord m config.metadataMaxSize ++ rest).take k) config =
      .ok ⟨⟨rest.take (k - metadataRecordLen config.metadataMaxSize),
        metadataRecordLen config.metadataMaxSize⟩, m, config.metadataMaxSize, 0, false⟩ := by
  rw [List.take_append, List.take_of_length_le (by rw [length_metadataRecord hfit]; exact hk),
    length_metadataRecord hfit]
  exact Player.load_metadataRecord hfit hblock _

/-- A cut inside the metadata record does not open: a record read from it would need a header
saying its block is the recording's, and that block would not fit before the cut. -/
theorem Player.load_take_of_lt {m : DemoMetadata} {config : DemoConfig}
    (hfit : m.encodedLen ≤ config.metadataMaxSize) (hblock : 16 + config.metadataMaxSize < 2 ^ (31 : Nat))
    (rest : Bytes) {k : Nat} (hk : k < metadataRecordLen config.metadataMaxSize) :
    ∃ e, Player.load ((metadataRecord m config.metadataMaxSize ++ rest).take k) config = .error e := by
  unfold Player.load
  rcases h : (readMetadataRecord config.metadataMaxSize 0).run
    (Source.init ((metadataRecord m config.metadataMaxSize ++ rest).take k)) with ⟨_ | ⟨m', n⟩, src⟩
  · exact ⟨_, rfl⟩
  exfalso
  obtain ⟨-, hn, used, blob, -, hblob, hrest, -, -⟩ := readMetadataRecord_eq_ok h
  simp only [Source.init] at hrest
  have hlong : (metadataRecord m config.metadataMaxSize ++ rest).length ≥ k := by
    simp only [List.length_append, length_metadataRecord hfit]
    omega
  have hlen := congrArg List.length hrest
  simp only [List.length_take, List.length_append, MetadataHeader.length_encoding, hblob] at hlen
  have hk4 : 4 ≤ k := by omega
  have hours : ((metadataRecord m config.metadataMaxSize ++ rest).take k).take 4 =
      toLE 4 (16 + config.metadataMaxSize) := by
    rw [List.take_take, Nat.min_eq_left hk4, metadataRecord, List.append_assoc,
      List.take_append_of_le_length (by simp), List.take_of_length_le (by simp)]
  have htheirs : ((MetadataHeader.layout n used 0).encoding ++ blob ++ src.rest).take 4 =
      toLE 4 (16 + n) := by
    simp only [MetadataHeader.encoding, MetadataHeader.layout, List.append_assoc]
    rw [List.take_append_of_le_length (by simp), List.take_of_length_le (by simp)]
  have hword := congrArg ofLE (hours.symm.trans ((congrArg (List.take 4) hrest).trans htheirs))
  rw [ofLE_toLE_of_lt (by norm_num; omega), ofLE_toLE_of_lt (by norm_num; omega)] at hword
  -- the length words agree: the block is the recording's, which does not fit before the cut
  simp only [metadataRecordLen, recordPrefixSize, metadataHeaderSize] at hk
  omega

/-- A recording cut after its metadata record and `room` bytes of records and end marker is
reported with the records wholly within those bytes, complete when the cut keeps the whole end
marker. -/
theorem inspectDemo_take {config : DemoConfig} {m : DemoMetadata} {recs : List Bytes} {file : Bytes}
    (hfit : m.encodedLen ≤ config.metadataMaxSize)
    (hblock : 16 + config.metadataMaxSize < 2 ^ (31 : Nat))
    (hfile : file = metadataRecord m config.metadataMaxSize ++
      (recs.flatMap recordBytes ++ toLE 4 endOfStream))
    (hacc : ∀ b ∈ recs, Accepted config.maxMessageSize b) (hash : Option Nat) (room : Nat)
    (hroom : room ≤ (recs.flatMap recordBytes).length + 4) :
    inspectDemo (file.take (metadataRecordLen config.metadataMaxSize + room)) config hash =
      .ok (DemoReport.ofRecords config hash m (recordsWithin recs room)
        (decide (room = (recs.flatMap recordBytes).length + 4))) := by
  have hload := Player.load_take hfit hblock (recs.flatMap recordBytes ++ toLE 4 endOfStream)
    (Nat.le_add_right (metadataRecordLen config.metadataMaxSize) room)
  rw [← hfile, Nat.add_sub_cancel_left] at hload
  -- the fuel is one more than the cut's length, and every record read takes four bytes of it
  have hfuel : (recordsWithin recs room).length < (file.take (metadataRecordLen config.metadataMaxSize + room)).length + 1 := by
    have := length_recordsWithin_le recs room
    rw [List.length_take, hfile]
    simp only [List.length_append, length_metadataRecord hfit, length_toLE]
    omega
  rw [inspectDemo, hload]
  simp only [bind, Except.bind]
  rw [inspectRecords_take config hash recs hacc rfl rfl hroom hfuel]
  simp [DemoReport.ofRecords, len_recordReports]
  rfl

open Recorder in
/-- A recording cut after any byte is refused inside its metadata, reported incomplete with the
records wholly before the cut, and reported complete when whole. -/
theorem truncated_recordings_reported {config : DemoConfig} {m : DemoMetadata}
    {ops : List RecorderOp} {r done : Recorder}
    (hsize : config.metadataMaxSize < 2 ^ (63 : Nat)) (hstart : start m config = .ok r)
    (hstop : (r.run ops).stop = .ok done) (hash : Option Nat) :
    (∀ k, k < metadataRecordLen config.metadataMaxSize →
      ∃ e, inspectDemo (done.file.take k) config hash = .error e) ∧
    (∀ k, metadataRecordLen config.metadataMaxSize ≤ k → k < done.file.length → ∃ j,
      inspectDemo (done.file.take k) config hash =
        .ok (DemoReport.ofRecords config hash m ((r.recordedBy ops).take j) false) ∧
      metadataRecordLen config.metadataMaxSize +
        (((r.recordedBy ops).take j).flatMap recordBytes).length ≤ k ∧
      (j < (r.recordedBy ops).length → k < metadataRecordLen config.metadataMaxSize +
        (((r.recordedBy ops).take (j + 1)).flatMap recordBytes).length)) ∧
    inspectDemo done.file config hash = .ok (DemoReport.ofRecords config hash m (r.recordedBy ops) true) := by
  obtain ⟨hfit, hblock, hfile, hacc⟩ := recording_layout hsize hstart hstop
  have hlength : done.file.length = metadataRecordLen config.metadataMaxSize +
      ((r.recordedBy ops).flatMap recordBytes).length + 4 := by
    rw [hfile]
    simp only [List.length_append, length_metadataRecord hfit, length_toLE]
    omega
  refine ⟨fun k hk => ?_, fun k hk hcut => ?_, ?_⟩
  · -- inside the metadata record
    obtain ⟨e, he⟩ := Player.load_take_of_lt hfit hblock _ hk
    refine ⟨e, ?_⟩
    rw [inspectDemo, hfile, he]
    rfl
  · -- after it and before the end, `k - metadataRecordLen` bytes into the records
    obtain ⟨j, hj, hle, hnext⟩ := recordsWithin_eq_take (r.recordedBy ops)
      (k - metadataRecordLen config.metadataMaxSize)
    have hread := inspectDemo_take hfit hblock hfile hacc hash
      (k - metadataRecordLen config.metadataMaxSize) (by omega)
    rw [Nat.add_sub_cancel' hk, hj, decide_eq_false (by omega)] at hread
    exact ⟨j, hread, by omega, fun hlt => by have := hnext hlt; omega⟩
  · -- the whole recording
    have hread := inspectDemo_take hfit hblock hfile hacc hash _ le_rfl
    rw [recordsWithin_of_le (by omega), decide_eq_true rfl, ← Nat.add_assoc, ← hlength,
      List.take_length] at hread
    exact hread

/-- The test settings, metadata of one entry, and three calls, of which the second is refused:
the recording made is reported complete, with every record. -/
theorem truncated_recordings_reported_testing :
    let m : DemoMetadata := ⟨[("map", "e1m1")], by decide, by decide⟩
    let ops := [RecorderOp.message [9, 9, 1, 2, 3] 2, .message [1] 5, .writeLive [7, 7]]
    ∃ r done, Recorder.start m DemoConfig.testing = .ok r ∧ (r.run ops).stop = .ok done ∧
      DemoConfig.testing.metadataMaxSize < 2 ^ (63 : Nat) ∧
      inspectDemo done.file DemoConfig.testing none =
        .ok (DemoReport.ofRecords DemoConfig.testing none m (r.recordedBy ops) true) := by
  intro m ops
  have hstart := @Recorder.start_eq_ok m DemoConfig.testing (by decide) (by decide)
  have hlive := Recorder.LiveOk.run (r := ⟨DemoConfig.testing,
    metadataRecord m DemoConfig.testing.metadataMaxSize, Buffer.empty DemoConfig.testing.maxMessageSize,
    .empty, none, 0, metadataRecordLen DemoConfig.testing.metadataMaxSize⟩) (by decide)
    ⟨rfl, by simp [Buffer.empty]⟩ ops
  obtain ⟨done, hstop, -⟩ := Recorder.stop_eq_ok
    (by rw [(Recorder.run_appends _ ops).config]; decide) hlive
  exact ⟨_, done, hstart, hstop, by decide,
    (truncated_recordings_reported (by decide) hstart hstop none).2.2⟩

end EntitySync
