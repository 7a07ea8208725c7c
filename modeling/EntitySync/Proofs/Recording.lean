import EntitySync.Proofs.Frame
import EntitySync.Demo.Recorder
import EntitySync.Demo.Player
/-!
# Recordings read back

A recording is a metadata record, then records, each a 32-bit length and its bytes, then the
end marker. `recording_reads_back`: whatever a recorder is asked to do, raw messages, writes into
the live buffer and its flushes, config strings and snapshot frames, a player opens the stopped
recording with its metadata and reads back, one by one and in order, the payload of every
record that was written, then finds the end on every further read; the recorder's counters
count those records and the bytes of the file.

Two of the recorder's own checks bound this. The header fields of the metadata record are
signed 32-bit, so a block of `2 ^ 31 - 16` bytes or more cannot be started
(`start_refuses_wide_block`); and no record may have the end marker's length, so a live buffer
of `2 ^ 32 - 1` bytes could never be flushed.

`Recorder.Appends` says what a call does to the file: records after what was there, counted,
each of a length a reader accepts. Every call appends what `Recorder.written` says it writes
(`apply_appends`), so a run appends them all (`run_appends`).
-/

namespace EntitySync

/-! ## Text in the metadata block -/

theorem length_encodeChar (c : Char) : (encodeChar c).length = c.utf8Size := by
  have hle (k : Nat) (hk : k < 2 ^ (32 : Nat)) : c.val ≤ UInt32.ofNatLT k hk ↔ c.toNat < k + 1 := by
    rw [UInt32.le_iff_toNat_le, UInt32.toNat_ofNatLT, Char.toNat]
    omega
  unfold encodeChar Char.utf8Size
  simp only [hle]
  split_ifs <;> rfl

theorem length_flatMap_encodeChar (l : List Char) :
    (l.flatMap encodeChar).length = (String.ofList l).utf8ByteSize := by
  induction l with
  | nil => rfl
  | cons c l ih =>
    rw [List.flatMap_cons, List.length_append, ih, String.ofList_cons, String.utf8ByteSize_append,
      String.utf8ByteSize_singleton, length_encodeChar]

theorem length_encodeUtf8 (s : String) : (encodeUtf8 s).length = s.utf8ByteSize := by
  rw [encodeUtf8, length_flatMap_encodeChar, String.ofList_toList]

theorem zero_not_mem_encodeChar {c : Char} (h : c ≠ DemoMetadata.nul) : (0 : UInt8) ∉ encodeChar c := by
  have hv : c.toNat < 0xD800 ∨ (0xDFFF < c.toNat ∧ c.toNat < 0x110000) := c.valid
  have h0 : c.toNat ≠ 0 := fun h0 => h (by rw [← Char.ofNat_toNat c, h0]; rfl)
  have hbyte (n : Nat) (hn : n % 256 ≠ 0) : (0 : UInt8) ≠ UInt8.ofNat n := by
    intro he
    have := congrArg UInt8.toNat he
    simp at this
    omega
  simp only [encodeChar]
  split_ifs <;> simp only [List.mem_cons, List.not_mem_nil, or_false, not_or] <;>
    and_intros <;> exact hbyte _ (by omega)

/-! ## Metadata entries -/

namespace DemoMetadata

variable {m m' : DemoMetadata} {k v : String}

theorem refused_eq_false (h : EntryOk k v) :
    (k.isEmpty || k.toList.contains nul || v.toList.contains nul) = false := by
  obtain ⟨hk, hkn, hvn⟩ := h
  simp [hk, hkn, hvn]

theorem entryOk_of_set (h : m.set k v = .ok m') : EntryOk k v := by
  unfold set at h
  split at h
  · cases h
  · exact entryOk_of_accepted ‹_›

theorem set_of_not_mem (hok : EntryOk k v) (hk : k ∉ m.entries.map Prod.fst) :
    ∃ m', m.set k v = .ok m' ∧ m'.entries = m.entries ++ [(k, v)] := by
  have hany : m.entries.any (·.1 == k) = false := by
    simpa using fun e he hek => hk (List.mem_map.mpr ⟨e, he, hek⟩)
  unfold set
  rw [dif_neg (by rw [refused_eq_false hok]; exact Bool.false_ne_true), dif_neg (by simp [hany])]
  exact ⟨_, rfl, rfl⟩

theorem zero_not_mem_encodeUtf8 {s : String} (hs : nul ∉ s.toList) : (0 : UInt8) ∉ encodeUtf8 s := by
  rw [encodeUtf8, List.mem_flatMap]
  rintro ⟨c, hc, h0⟩
  exact zero_not_mem_encodeChar (fun hcn => hs (hcn ▸ hc)) h0

theorem blobParts_part {acc bs : Bytes} (rest : Bytes) (h : (0 : UInt8) ∉ bs) :
    blobParts acc (bs ++ 0 :: rest) = match stringOfUtf8 (acc.reverse ++ bs) with
      | none => .error .invalidUtf8
      | some s => (blobParts [] rest).map (s :: ·) := by
  induction bs generalizing acc with
  | nil =>
    rw [List.nil_append, List.append_nil]
    rfl
  | cons b bs ih =>
    have hb : b ≠ 0 := fun hb => h (hb ▸ List.mem_cons_self)
    rw [List.cons_append, blobParts, if_neg (by simpa using hb),
      ih (fun h0 => h (List.mem_cons_of_mem _ h0))]
    simp

theorem blobParts_text {s : String} (rest : Bytes) (hs : nul ∉ s.toList) :
    blobParts [] (encodeUtf8 s ++ 0 :: rest) = (blobParts [] rest).map (s :: ·) := by
  rw [blobParts_part rest (zero_not_mem_encodeUtf8 hs), List.reverse_nil, List.nil_append,
    stringOfUtf8_encodeUtf8]

theorem blobParts_entry {k v : String} (rest : Bytes) (hk : nul ∉ k.toList) (hv : nul ∉ v.toList) :
    blobParts [] (encodeUtf8 k ++ [0] ++ encodeUtf8 v ++ [0] ++ rest) =
      (blobParts [] rest).map (k :: v :: ·) := by
  rw [show encodeUtf8 k ++ [0] ++ encodeUtf8 v ++ [0] ++ rest =
      encodeUtf8 k ++ 0 :: (encodeUtf8 v ++ 0 :: rest) by simp,
    blobParts_text _ hk, blobParts_text _ hv]
  cases blobParts [] rest <;> rfl

theorem blobParts_blobEntries {es : List (String × String)} (hok : ∀ e ∈ es, EntryOk e.1 e.2) :
    blobParts [] (es.flatMap fun (k, v) => encodeUtf8 k ++ [0] ++ encodeUtf8 v ++ [0]) =
      .ok (es.flatMap fun e => [e.1, e.2]) := by
  induction es with
  | nil => rfl
  | cons e es ih =>
    obtain ⟨k, v⟩ := e
    obtain ⟨-, hk, hv⟩ : EntryOk k v := hok (k, v) List.mem_cons_self
    have hrest := ih (fun e he => hok e (List.mem_cons_of_mem _ he))
    simp only [List.flatMap_cons] at hrest ⊢
    rw [blobParts_entry _ hk hv, hrest]
    rfl

theorem setPairs_flatMap {es : List (String × String)} (hok : ∀ e ∈ es, EntryOk e.1 e.2)
    (hnodup : ((m.entries ++ es).map Prod.fst).Nodup) :
    ∃ m', m.setPairs (es.flatMap fun e => [e.1, e.2]) = .ok m' ∧ m'.entries = m.entries ++ es := by
  induction es generalizing m with
  | nil => exact ⟨m, by simp [setPairs], by simp⟩
  | cons e es ih =>
    have hnew : e.1 ∉ m.entries.map Prod.fst := by
      rw [List.map_append, List.nodup_append] at hnodup
      exact fun he => hnodup.2.2 _ he _ (by simp) rfl
    obtain ⟨m₁, hset, hm₁⟩ := set_of_not_mem (hok e List.mem_cons_self) hnew
    obtain ⟨m', hrest, hm'⟩ := @ih m₁ (fun e' he' => hok e' (List.mem_cons_of_mem _ he'))
      (by simpa [hm₁] using hnodup)
    refine ⟨m', ?_, by simp [hm', hm₁]⟩
    rw [List.flatMap_cons, List.cons_append, List.cons_append, List.nil_append, setPairs, hset]
    exact hrest

theorem length_blobEntries : m.blobEntries.length = m.encodedLen := by
  simp only [blobEntries, encodedLen]
  generalize m.entries = es
  induction es with
  | nil => rfl
  | cons e es ih =>
    simp only [List.flatMap_cons, List.map_cons, List.sum_cons, List.length_append,
      length_encodeUtf8] at ih ⊢
    simp only [List.length_singleton, ih]
    omega

theorem ofBlob_blobEntries : ofBlob m.blobEntries = .ok m := by
  have hlen : (m.entries.flatMap fun e => [e.1, e.2]).length % 2 = 0 := by
    simp [List.length_flatMap]
  obtain ⟨m', hset, hm'⟩ :=
    @setPairs_flatMap empty m.entries m.entries_ok (by simpa [empty] using m.keys_nodup)
  have hm : m' = m := DemoMetadata.ext (by simpa [empty] using hm')
  rw [ofBlob, blobEntries, blobParts_blobEntries m.entries_ok]
  simp only [bind, Except.bind, hlen, bne_self_eq_false, Bool.false_eq_true, if_false, hset, hm]

end DemoMetadata


/-! ## Reading a source -/

namespace SourceRead

variable {α β : Type}

theorem run_bind_of_ok {x : SourceRead α} {s s' : Source} {a : α} (h : x.run s = (.ok a, s'))
    (f : α → SourceRead β) : (x >>= f).run s = (f a).run s' := by
  simp only [run, ExceptT.run_bind] at h ⊢
  simp only [StateT.run_bind, h]
  rfl

theorem run_get (s : Source) : StateT.run (ExceptT.run (get : SourceRead Source)) s = (.ok s, s) := rfl

theorem bytes_run (n : Nat) (s : Source) :
    (bytes n).run s = ((s.readExact n).1.mapError .file, (s.readExact n).2) := by
  rcases hr : s.readExact n with ⟨r | r, s'⟩
  all_goals
    simp only [bytes, run, ExceptT.run_bind, StateT.run_bind, run_get]
    dsimp only [bind]
    rw [hr]
    rfl

theorem bytes_run_of_rest {s : Source} {bs more : Bytes} (h : s.rest = bs ++ more) :
    (bytes bs.length).run s = (.ok bs, ⟨more, s.pos + bs.length⟩) := by
  rw [bytes_run, Source.readExact, if_pos (by simp [h]), h]
  simp
  rfl

theorem word_run_of_rest {s : Source} {w x : Nat} {more : Bytes} (h : s.rest = toLE w x ++ more)
    (hx : x < 2 ^ (8 * w)) : (word w).run s = (.ok x, ⟨more, s.pos + w⟩) := by
  have hb := bytes_run_of_rest h
  rw [length_toLE] at hb
  rw [word, run_bind_of_ok hb, ofLE_toLE_of_lt hx]
  rfl

theorem signed_run_of_rest {s : Source} {w : Nat} {v : Int} {more : Bytes}
    (h : s.rest = toLE w (twosComplement w v) ++ more) (hw : 0 < w)
    (lo : -(2 ^ (8 * w - 1) : Nat) ≤ v) (hi : v < (2 ^ (8 * w - 1) : Nat)) :
    (signed w).run s = (.ok v, ⟨more, s.pos + w⟩) := by
  have hb := bytes_run_of_rest h
  rw [length_toLE] at hb
  rw [signed, word, bind_assoc, run_bind_of_ok hb]
  simp only [pure_bind, signedOf_twosComplement hw lo hi]
  rfl

end SourceRead

/-! ## The metadata record -/

theorem twosComplement_of_nonneg {w : Nat} {v : Int} (h0 : 0 ≤ v) (h : v < (2 ^ (8 * w) : Nat)) :
    twosComplement w v = v.toNat := by
  unfold twosComplement
  rw [Int.emod_eq_of_lt h0 h]

theorem twosComplement_natCast {w n : Nat} (h : n < 2 ^ (8 * w)) : twosComplement w n = n := by
  unfold twosComplement
  rw [Int.emod_eq_of_lt (by omega) (by exact_mod_cast h)]
  simp

theorem wrapSigned64_natCast {n : Nat} (h : n < 2 ^ (63 : Nat)) : wrapSigned64 n = n := by
  unfold wrapSigned64
  rw [twosComplement_natCast (by omega)]
  unfold signedOf
  rw [if_pos (by simpa using h)]

theorem blockOffset_zero : blockOffset 0 = 20 := by decide

/-- The metadata record at the start of a recording, with a block of `size` bytes. -/
def metadataRecord (m : DemoMetadata) (size : Nat) : Bytes :=
  toLE 4 (16 + size) ++ (toLE 4 (12 + size) ++ (toLE 4 20 ++ (toLE 4 m.encodedLen ++
    (toLE 4 size ++ (m.blobEntries ++ List.replicate (size - m.encodedLen) 0)))))

theorem writeMetadataRecord_eq_ok {m : DemoMetadata} {size : Nat} (hfit : m.encodedLen ≤ size)
    (hsize : 16 + size < 2 ^ (31 : Nat)) : writeMetadataRecord m size 0 = .ok (metadataRecord m size) := by
  have hwrap := wrapSigned64_natCast (n := size) (by omega)
  simp only [writeMetadataRecord, if_neg (Nat.not_lt.mpr hfit), headerField, hwrap, blockOffset_zero]
  rw [if_pos (by omega), if_pos (by omega), if_pos (by omega)]
  have h16 : (16 + (size : Int)).toNat = 16 + size := by omega
  have h12 : (12 + (size : Int)).toNat = 12 + size := by omega
  simp (disch := omega) only [bind, Except.bind, pure, Except.pure, twosComplement_of_nonneg, h16, h12,
    Int.toNat_natCast, metadataRecord, List.append_assoc]
  rfl

namespace SourceRead

variable {β : Type}

theorem word_bind_run {w x : Nat} (more : Bytes) (pos : Nat) (f : Nat → SourceRead β)
    (hx : x < 2 ^ (8 * w)) : (word w >>= f).run ⟨toLE w x ++ more, pos⟩ = (f x).run ⟨more, pos + w⟩ :=
  run_bind_of_ok (word_run_of_rest rfl hx) f

theorem signed_bind_run {w x : Nat} (more : Bytes) (pos : Nat) (f : Int → SourceRead β)
    (hx : x < 2 ^ (8 * w - 1)) (hw : 0 < w) :
    (signed w >>= f).run ⟨toLE w x ++ more, pos⟩ = (f x).run ⟨more, pos + w⟩ := by
  have hpat : twosComplement w x = x := twosComplement_natCast (by
    have : 2 ^ (8 * w - 1) ≤ 2 ^ (8 * w) := Nat.pow_le_pow_right (by decide) (by omega)
    omega)
  have hrun := @signed_run_of_rest ⟨toLE w x ++ more, pos⟩ w x more (by rw [hpat]) hw (by omega)
    (by exact_mod_cast hx)
  exact run_bind_of_ok hrun f

theorem bytes_bind_run {bs : Bytes} {n : Nat} (more : Bytes) (pos : Nat) (f : Bytes → SourceRead β)
    (hn : bs.length = n) : (bytes n >>= f).run ⟨bs ++ more, pos⟩ = (f bs).run ⟨more, pos + n⟩ := by
  subst hn
  exact run_bind_of_ok (bytes_run_of_rest rfl) f

end SourceRead

theorem readMetadataRecord_metadataRecord {m : DemoMetadata} {size limit : Nat}
    (hfit : m.encodedLen ≤ size) (hsize : 16 + size < 2 ^ (31 : Nat)) (hlimit : size ≤ limit) (more : Bytes) :
    (readMetadataRecord limit 0).run (Source.init (metadataRecord m size ++ more)) =
      (.ok (m, size), ⟨more, metadataRecordLen size⟩) := by
  simp only [readMetadataRecord, Source.init, metadataRecord, List.append_assoc]
  rw [SourceRead.word_bind_run _ _ _ (by omega)]
  rw [SourceRead.signed_bind_run _ _ _ (by omega) (by omega)]
  rw [SourceRead.signed_bind_run _ _ _ (by omega) (by omega)]
  rw [SourceRead.signed_bind_run _ _ _ (by omega) (by omega)]
  rw [SourceRead.signed_bind_run _ _ _ (by omega) (by omega)]
  have hc1 : checkHeader "record_length" ((16 + size : Nat) : Int) (16 + (size : Int)) = .ok () := by
    simp [checkHeader]
  have hc2 : checkHeader "total_length" ((12 + size : Nat) : Int) (12 + (size : Int)) = .ok () := by
    simp [checkHeader]
  have hc3 : checkHeader "metadata_offset" ((20 : Nat) : Int) (blockOffset 0) = .ok () := by
    rw [blockOffset_zero]
    rfl
  have hblob : (m.blobEntries ++ List.replicate (size - m.encodedLen) 0).length = size := by
    simp [DemoMetadata.length_blobEntries]
    omega
  simp only [if_neg (show ¬ ((size : Int) < 0 ∨ (limit : Int) < size) by omega), hc1, hc2, hc3,
    if_neg (show ¬ ((m.encodedLen : Int) < 0 ∨ (size : Int) < m.encodedLen) by omega), Int.toNat_natCast]
  rw [← List.append_assoc, SourceRead.bytes_bind_run _ _ _ hblob,
    List.take_left' DemoMetadata.length_blobEntries, DemoMetadata.ofBlob_blobEntries]
  simp only [metadataRecordLen, recordPrefixSize, metadataHeaderSize]
  rfl


/-! ## Records -/

/-- A record as it stands in a recording: its 32-bit length, then its bytes. -/
def recordBytes (bytes : Bytes) : Bytes := toLE 4 bytes.length ++ bytes

/-- A reader whose buffer holds `max` bytes accepts a record of these bytes: they fit, and their
length is not the end marker. -/
def Accepted (max : Nat) (bytes : Bytes) : Prop := bytes.length ≤ max ∧ bytes.length < endOfStream

theorem encodeRecord_eq_ok {bytes out : Bytes} {max : Nat} (h : encodeRecord bytes max = .ok out) :
    Accepted max bytes ∧ out = recordBytes bytes := by
  unfold encodeRecord at h
  split at h
  · cases h
  · next hacc => exact ⟨⟨by omega, by omega⟩, (Except.ok.inj h).symm⟩

theorem encodeRecord_of_accepted {bytes : Bytes} {max : Nat} (h : Accepted max bytes) :
    encodeRecord bytes max = .ok (recordBytes bytes) := by
  obtain ⟨hmax, hend⟩ := h
  rw [encodeRecord, if_neg (by omega)]
  rfl

namespace Player

variable {p : Player} {msg : Buffer} {bytes more : Bytes}

theorem readInto_finished (hp : p.finished = true) (msg : Buffer) :
    p.readInto msg = (.ok .endOfStream, p, msg) := by
  simp [readInto, hp]

theorem readWord_of_rest {s : Source} {x : Nat} (hrest : s.rest = toLE 4 x ++ more) (hx : x < 2 ^ (32 : Nat)) :
    s.readWord 4 = (.ok x, ⟨more, s.pos + 4⟩) := by
  simp [Source.readWord, Source.readExact, hrest, Except.map, ofLE_toLE_of_lt (show x < 2 ^ (8 * 4) from hx)]

theorem readInto_record (hp : p.finished = false) (hrest : p.source.rest = recordBytes bytes ++ more)
    (hlen : bytes.length < endOfStream) (hcap : bytes.length ≤ msg.capacity) :
    p.readInto msg =
      (.ok .record,
        { p with source := ⟨more, p.source.pos + 4 + bytes.length⟩, records := p.records + 1 },
        ⟨bytes, msg.capacity, 0⟩) := by
  have hprefix : p.source.rest = toLE 4 bytes.length ++ (bytes ++ more) := by
    rw [hrest, recordBytes, List.append_assoc]
  have hword := readWord_of_rest hprefix (show bytes.length < 2 ^ (32 : Nat) by unfold endOfStream at hlen; omega)
  simp [readInto, hp, hword, Nat.ne_of_lt hlen, Nat.not_lt.mpr hcap, Source.readExact]

theorem readInto_end (hp : p.finished = false) (hrest : p.source.rest = toLE 4 endOfStream ++ more) :
    p.readInto msg =
      (.ok .endOfStream, { p with source := ⟨more, p.source.pos + 4⟩, finished := true }, msg) := by
  have hword := readWord_of_rest hrest (by decide)
  simp [readInto, hp, hword]

/-- What `n` reads in a row into one buffer give: each record as the buffer then holds it, and
`none` for the end of the recording. -/
def readN : Nat → Player → Buffer → List (Except DemoError (Option Buffer))
  | 0, _, _ => []
  | n + 1, p, msg =>
    let (r, p', msg') := p.readInto msg
    r.map (fun f => if f = .record then some msg' else none) :: readN n p' msg'

theorem readN_finished (hp : p.finished = true) (msg : Buffer) (k : Nat) :
    p.readN k msg = List.replicate k (.ok none) := by
  induction k with
  | zero => rfl
  | succ k ih =>
    simp only [readN, readInto_finished hp, ih]
    rfl

/-- Records that fit the buffer, then the end marker, are read back one by one, each whole at
the start of the buffer, and then every read finds the end. -/
theorem readN_records {cap : Nat} (recs : List Bytes) (tail : Bytes) (hacc : ∀ b ∈ recs, Accepted cap b)
    (hp : p.finished = false) (hcap : msg.capacity = cap)
    (hrest : p.source.rest = recs.flatMap recordBytes ++ toLE 4 endOfStream ++ tail) (k : Nat) :
    p.readN (recs.length + k) msg =
      recs.map (fun b => .ok (some ⟨b, cap, 0⟩)) ++ List.replicate k (.ok none) := by
  induction recs generalizing p msg with
  | nil =>
    cases k with
    | zero => rfl
    | succ k =>
      rw [List.flatMap_nil, List.nil_append] at hrest
      rw [List.length_nil, Nat.zero_add, readN, readInto_end hp hrest]
      simp [readN_finished, Except.map, List.replicate_succ]
  | cons b recs ih =>
    obtain ⟨hlen, hend⟩ := hacc b List.mem_cons_self
    have hrest' : p.source.rest = recordBytes b ++ (recs.flatMap recordBytes ++ toLE 4 endOfStream ++ tail) := by
      rw [hrest, List.flatMap_cons, List.append_assoc, List.append_assoc, List.append_assoc]
    rw [List.length_cons, Nat.add_right_comm, readN, readInto_record hp hrest' hend (hcap ▸ hlen)]
    simp only [List.map_cons, List.cons_append]
    have hnext := @ih { p with source := ⟨_, p.source.pos + 4 + b.length⟩, records := p.records + 1 }
      ⟨b, msg.capacity, 0⟩ (fun b' hb' => hacc b' (List.mem_cons_of_mem _ hb')) hp hcap rfl
    rw [hnext, hcap]
    rfl

end Player

/-! ## Recording -/

/-- A call on a recorder. -/
inductive RecorderOp where
  | message (msg : Bytes) (skip : Nat)
  | writeLive (bytes : Bytes)
  | safeWrite
  | setConfig (index : Nat) (value : String)
  | snapshot (schema : Schema) (current : Snapshot)
  | bootstrap (schema : Schema) (current : Snapshot)

namespace Recorder

variable {r r' r'' : Recorder} {ps qs : List Bytes} {bytes : Bytes}

/-- The recorder after a call; a call that fails leaves it as the failure left it. -/
def apply (r : Recorder) : RecorderOp → Recorder
  | .message msg skip => (r.recordMessage msg skip).toOption.getD r
  | .writeLive bytes => (r.writeLive bytes).toOption.getD r
  | .safeWrite => (r.safeWrite.toOption.map Prod.snd).getD r
  | .setConfig index value => (r.setConfig index value).toOption.getD r
  | .snapshot schema current => (r.recordSnapshot schema current).2
  | .bootstrap schema current => (r.recordBootstrap schema current).2

/-- The recorder after calls in turn. -/
def run (r : Recorder) (ops : List RecorderOp) : Recorder := ops.foldl apply r

/-- The live buffer's record, if it holds anything. -/
def liveRecord (r : Recorder) : List Bytes := if r.live.data.isEmpty then [] else [r.live.data]

/-- The payloads of the records a frame writes: the live buffer's, then the frame's message. -/
def frameWritten (r : Recorder) (schema : Schema) (current : Snapshot) (bootstrap : Bool) : List Bytes :=
  match r.flushLive with
  | .error _ => []
  | .ok r' =>
    r.liveRecord ++ match r'.frameMessage schema (current.quantized schema) bootstrap with
      | .error .. => []
      | .ok _ out =>
        match r'.putRecord out.data with
        | .ok _ => [out.data]
        | .error _ => []

/-- The payloads of the records a call writes, in order. -/
def written (r : Recorder) : RecorderOp → List Bytes
  | .message msg skip =>
    match r.recordMessage msg skip with
    | .ok _ => [msg.drop skip]
    | .error _ => []
  | .writeLive _ | .setConfig .. => []
  | .safeWrite =>
    match r.safeWrite with
    | .ok (true, _) => r.liveRecord
    | _ => []
  | .snapshot schema current => r.frameWritten schema current r.last.isNone
  | .bootstrap schema current => r.frameWritten schema current true

/-- The payloads of the records calls write, in order. -/
def writtenBy (r : Recorder) : List RecorderOp → List Bytes
  | [] => []
  | op :: ops => r.written op ++ writtenBy (r.apply op) ops

/-- `r'` is `r` with records of `ps` written after its file and counted, under the same settings;
a reader with the configured maximum accepts each of them. -/
structure Appends (r r' : Recorder) (ps : List Bytes) : Prop where
  file : r'.file = r.file ++ ps.flatMap recordBytes
  records : r'.records = r.records + ps.length
  bytesWritten : r'.bytesWritten = r.bytesWritten + (ps.flatMap recordBytes).length
  config : r'.config = r.config
  accepted : ∀ b ∈ ps, Accepted r.config.maxMessageSize b

theorem Appends.rfl_of (hf : r'.file = r.file) (hr : r'.records = r.records)
    (hb : r'.bytesWritten = r.bytesWritten) (hc : r'.config = r.config) : Appends r r' [] :=
  ⟨by simp [hf], by simp [hr], by simp [hb], hc, by simp⟩

theorem Appends.refl (r : Recorder) : Appends r r [] := Appends.rfl_of rfl rfl rfl rfl

theorem Appends.trans (h₁ : Appends r r' ps) (h₂ : Appends r' r'' qs) : Appends r r'' (ps ++ qs) where
  file := by rw [h₂.file, h₁.file, List.flatMap_append, List.append_assoc]
  records := by rw [h₂.records, h₁.records, List.length_append, Nat.add_assoc]
  bytesWritten := by
    rw [h₂.bytesWritten, h₁.bytesWritten, List.flatMap_append, List.length_append, Nat.add_assoc]
  config := by rw [h₂.config, h₁.config]
  accepted := by
    intro b hb
    rcases List.mem_append.mp hb with hb | hb
    · exact h₁.accepted b hb
    · exact h₁.config ▸ h₂.accepted b hb

theorem putRecord_eq_ok (h : r.putRecord bytes = .ok r') :
    Accepted r.config.maxMessageSize bytes ∧
      r' = { r with file := r.file ++ recordBytes bytes, records := r.records + 1,
                    bytesWritten := r.bytesWritten + 4 + bytes.length } := by
  obtain ⟨record, hrec, h⟩ := Except.bind_eq_ok.mp h
  obtain ⟨hacc, rfl⟩ := encodeRecord_eq_ok hrec
  exact ⟨hacc, (Except.ok.inj h).symm⟩

theorem putRecord_appends (h : r.putRecord bytes = .ok r') : Appends r r' [bytes] := by
  obtain ⟨hacc, rfl⟩ := putRecord_eq_ok h
  refine ⟨by simp, rfl, ?_, rfl, by simpa using hacc⟩
  simp [recordBytes]
  omega

theorem flushLive_eq_ok (h : r.flushLive = .ok r') :
    Appends r r' r.liveRecord ∧ (r'.live = r.live ∨ r'.live = r.live.clear) ∧ r'.strings = r.strings ∧
      r'.last = r.last := by
  unfold flushLive at h
  by_cases he : r.live.data.isEmpty
  · rw [if_pos he, Except.ok.injEq] at h
    subst h
    simp only [liveRecord, if_pos he]
    refine ⟨Appends.refl r, ?_⟩
    simp
  · rw [if_neg he] at h
    obtain ⟨r₁, h₁, h⟩ := Except.bind_eq_ok.mp h
    simp only [pure, Except.pure, Except.ok.injEq] at h
    subst h
    have happ := putRecord_appends h₁
    obtain ⟨-, rfl⟩ := putRecord_eq_ok h₁
    simp only [liveRecord, if_neg he]
    refine ⟨⟨happ.file, happ.records, happ.bytesWritten, happ.config, happ.accepted⟩, ?_⟩
    simp

theorem flushLive_of_accepted (h : Accepted r.config.maxMessageSize r.live.data) :
    ∃ r', r.flushLive = .ok r' := by
  unfold flushLive
  split
  · exact ⟨r, rfl⟩
  · simp only [putRecord, encodeRecord_of_accepted h]
    exact ⟨_, rfl⟩

theorem recordFrame_appends (schema : Schema) (current : Snapshot) (bootstrap : Bool) :
    Appends r (r.recordFrame schema current bootstrap).2 (r.frameWritten schema current bootstrap) := by
  unfold recordFrame frameWritten
  rcases h₁ : r.flushLive with e | r₁
  · exact Appends.refl r
  · obtain ⟨happ, -, -, -⟩ := flushLive_eq_ok h₁
    dsimp only
    rcases r₁.frameMessage schema (current.quantized schema) bootstrap with ⟨len, out⟩ | ⟨e, out⟩
    · dsimp only
      rcases h₃ : r₁.putRecord out.data with e | r₂
      · simpa using happ
      · -- the frame's record follows the live buffer's, and the strings are marked sent
        have hall := happ.trans (putRecord_appends h₃)
        exact ⟨hall.file, hall.records, hall.bytesWritten, hall.config, hall.accepted⟩
    · simpa using happ

theorem apply_appends (r : Recorder) (op : RecorderOp) : Appends r (r.apply op) (r.written op) := by
  cases op with
  | message msg skip =>
    simp only [apply, written]
    rcases h : r.recordMessage msg skip with e | r'
    · exact Appends.refl r
    · have hput : r.putRecord (msg.drop skip) = .ok r' := by
        unfold recordMessage at h
        split at h
        · cases h
        · exact h
      exact putRecord_appends hput
  | writeLive bytes =>
    simp only [apply, written]
    rcases h : r.writeLive bytes with e | r'
    · exact Appends.refl r
    · obtain ⟨live, -, h⟩ := Except.bind_eq_ok.mp h
      cases h
      exact Appends.rfl_of rfl rfl rfl rfl
  | safeWrite =>
    simp only [apply, written]
    unfold safeWrite
    split
    · rcases h : r.flushLive with e | r'
      · exact Appends.refl r
      · exact (flushLive_eq_ok h).1
    · exact Appends.refl r
  | setConfig index value =>
    simp only [apply, written, setConfig]
    split
    · exact Appends.refl r
    · exact Appends.rfl_of rfl rfl rfl rfl
  | snapshot schema current => exact recordFrame_appends schema current _
  | bootstrap schema current => exact recordFrame_appends schema current _

theorem run_appends (r : Recorder) (ops : List RecorderOp) : Appends r (r.run ops) (r.writtenBy ops) := by
  induction ops generalizing r with
  | nil => exact Appends.refl r
  | cons op ops ih => exact (apply_appends r op).trans (ih (r.apply op))

theorem live_recordFrame (schema : Schema) (current : Snapshot) (bootstrap : Bool) :
    (r.recordFrame schema current bootstrap).2.live = r.live ∨
      (r.recordFrame schema current bootstrap).2.live = r.live.clear := by
  unfold recordFrame
  rcases h₁ : r.flushLive with e | r₁
  · exact .inl rfl
  · obtain ⟨-, hlive, -, -⟩ := flushLive_eq_ok h₁
    dsimp only
    rcases r₁.frameMessage schema (current.quantized schema) bootstrap with ⟨len, out⟩ | ⟨e, out⟩
    · dsimp only
      rcases h₃ : r₁.putRecord out.data with e | r₂
      · exact hlive
      · obtain ⟨-, rfl⟩ := putRecord_eq_ok h₃
        exact hlive
    · exact hlive

theorem live_apply (r : Recorder) (op : RecorderOp) :
    (∃ bytes, op = .writeLive bytes ∧ r.live.write bytes = .ok (r.apply op).live) ∨
      (r.apply op).live = r.live ∨ (r.apply op).live = r.live.clear := by
  cases op with
  | message msg skip =>
    refine .inr (.inl ?_)
    simp only [apply]
    rcases h : r.recordMessage msg skip with e | r'
    · rfl
    · unfold recordMessage at h
      split at h
      · cases h
      · obtain ⟨-, rfl⟩ := putRecord_eq_ok h
        rfl
  | writeLive bytes =>
    simp only [apply]
    rcases h : r.writeLive bytes with e | r'
    · exact .inr (.inl rfl)
    · obtain ⟨live, hlive, h⟩ := Except.bind_eq_ok.mp h
      cases h
      exact .inl ⟨bytes, rfl, hlive⟩
  | safeWrite =>
    refine .inr ?_
    simp only [apply]
    unfold safeWrite
    split
    · rcases h : r.flushLive with e | r'
      · exact .inl rfl
      · exact (flushLive_eq_ok h).2.1
    · exact .inl rfl
  | setConfig index value =>
    refine .inr (.inl ?_)
    simp only [apply, setConfig]
    split <;> rfl
  | snapshot schema current => exact .inr (live_recordFrame schema current _)
  | bootstrap schema current => exact .inr (live_recordFrame schema current _)

/-- The live buffer has the capacity of the largest record and holds at most that. -/
structure LiveOk (r : Recorder) : Prop where
  capacity : r.live.capacity = r.config.maxMessageSize
  size_le : r.live.data.length ≤ r.config.maxMessageSize

theorem LiveOk.apply (hmax : r.config.maxMessageSize < endOfStream) (h : r.LiveOk) (op : RecorderOp) :
    (r.apply op).LiveOk := by
  have hconfig := (apply_appends r op).config
  rcases live_apply r op with ⟨bytes, -, hw⟩ | hl | hl
  · -- a write fits the capacity, which is below the largest size, so its sum is exact
    obtain ⟨hfit, hlive⟩ := Buffer.write_eq_ok hw
    have hcap := h.capacity
    unfold Buffer.Fits satAdd at hfit
    unfold endOfStream at hmax
    refine ⟨by rw [hlive, hconfig]; exact hcap, ?_⟩
    rw [hlive, hconfig]
    simp only [Buffer.appended_data, List.length_append, maxSize] at hfit ⊢
    omega
  · exact ⟨by rw [hl, hconfig]; exact h.capacity, by rw [hl, hconfig]; exact h.size_le⟩
  · exact ⟨by rw [hl, hconfig]; exact h.capacity, by rw [hl, hconfig]; simp [Buffer.clear]⟩

theorem LiveOk.run (hmax : r.config.maxMessageSize < endOfStream) (h : r.LiveOk) (ops : List RecorderOp) :
    (r.run ops).LiveOk := by
  induction ops generalizing r with
  | nil => exact h
  | cons op ops ih =>
    exact ih (by rw [(apply_appends r op).config]; exact hmax) (h.apply hmax op)

theorem stop_eq_ok (hmax : r.config.maxMessageSize < endOfStream) (h : r.LiveOk) :
    ∃ done, r.stop = .ok done ∧ done.file = r.file ++ r.liveRecord.flatMap recordBytes ++ toLE 4 endOfStream ∧
      done.records = r.records + r.liveRecord.length ∧
      done.bytesWritten = r.bytesWritten + (r.liveRecord.flatMap recordBytes).length + 4 := by
  obtain ⟨r', hflush⟩ := flushLive_of_accepted ⟨h.size_le, Nat.lt_of_le_of_lt h.size_le hmax⟩
  have happ := (flushLive_eq_ok hflush).1
  refine ⟨{ r' with file := r'.file ++ toLE 4 endOfStream, bytesWritten := r'.bytesWritten + 4 },
    by rw [stop, hflush]; rfl, ?_, happ.records, ?_⟩
  · show r'.file ++ _ = _
    rw [happ.file]
  · show r'.bytesWritten + 4 = _
    rw [happ.bytesWritten]

/-- The recorder a start makes, when the metadata fits a block small enough for the 32-bit
fields of its header. -/
theorem start_eq_ok {m : DemoMetadata} {config : DemoConfig} (hfit : m.encodedLen ≤ config.metadataMaxSize)
    (hblock : 16 + config.metadataMaxSize < 2 ^ (31 : Nat)) :
    start m config = .ok ⟨config, metadataRecord m config.metadataMaxSize,
      Buffer.empty config.maxMessageSize, .empty, none, 0, metadataRecordLen config.metadataMaxSize⟩ := by
  simp only [start, writeMetadataRecord_eq_ok hfit hblock]
  rfl

/-- The payloads of the records of a recording made by calls and then stopped: what the calls
wrote, then the live buffer, which the stop records. -/
def recordedBy (r : Recorder) (ops : List RecorderOp) : List Bytes := r.writtenBy ops ++ (r.run ops).liveRecord

end Recorder

theorem Accepted.mono {max cap : Nat} {bytes : Bytes} (h : Accepted max bytes) (hle : max ≤ cap) :
    Accepted cap bytes :=
  ⟨Nat.le_trans h.1 hle, h.2⟩

theorem length_metadataRecord {m : DemoMetadata} {size : Nat} (hfit : m.encodedLen ≤ size) :
    (metadataRecord m size).length = metadataRecordLen size := by
  simp only [metadataRecord, List.length_append, length_toLE, DemoMetadata.length_blobEntries,
    List.length_replicate, metadataRecordLen, recordPrefixSize, metadataHeaderSize]
  omega

theorem Player.load_metadataRecord {m : DemoMetadata} {config : DemoConfig}
    (hfit : m.encodedLen ≤ config.metadataMaxSize) (hblock : 16 + config.metadataMaxSize < 2 ^ (31 : Nat))
    (rest : Bytes) :
    Player.load (metadataRecord m config.metadataMaxSize ++ rest) config =
      .ok ⟨⟨rest, metadataRecordLen config.metadataMaxSize⟩, m, config.metadataMaxSize, 0, false⟩ := by
  rw [Player.load, readMetadataRecord_metadataRecord hfit hblock (Nat.le_refl _) rest]

open Recorder in
/-- A recording reads back as it was made: its metadata, every record's payload in order, then
the end. -/
theorem recording_reads_back {config : DemoConfig} {m : DemoMetadata}
    (hfit : m.encodedLen ≤ config.metadataMaxSize) (hblock : 16 + config.metadataMaxSize < 2 ^ (31 : Nat))
    (hmax : config.maxMessageSize < endOfStream) (ops : List RecorderOp) {cap : Nat}
    (hcap : config.maxMessageSize ≤ cap) :
    ∃ r, start m config = .ok r ∧ ∃ done, (r.run ops).stop = .ok done ∧
      done.records = (r.recordedBy ops).length ∧ done.bytesWritten = done.file.length ∧
      ∃ p, Player.load done.file config = .ok p ∧ p.metadata = m ∧
        ∀ k, p.readN ((r.recordedBy ops).length + k) (Buffer.empty cap) =
          (r.recordedBy ops).map (fun b => .ok (some ⟨b, cap, 0⟩)) ++ List.replicate k (.ok none) := by
  refine ⟨_, start_eq_ok hfit hblock, ?_⟩
  set r₀ : Recorder := ⟨config, metadataRecord m config.metadataMaxSize,
    Buffer.empty config.maxMessageSize, .empty, none, 0, metadataRecordLen config.metadataMaxSize⟩
  have hrun := run_appends r₀ ops
  have hlive : (r₀.run ops).LiveOk := LiveOk.run hmax ⟨rfl, by simp [r₀, Buffer.empty]⟩ ops
  have hmax' : (r₀.run ops).config.maxMessageSize < endOfStream := by rw [hrun.config]; exact hmax
  obtain ⟨done, hstop, hfile, hrecords, hbytes⟩ := stop_eq_ok hmax' hlive
  have hlayout : done.file = metadataRecord m config.metadataMaxSize ++
      ((r₀.recordedBy ops).flatMap recordBytes ++ toLE 4 endOfStream) := by
    rw [hfile, hrun.file, recordedBy, List.flatMap_append]
    simp only [r₀, List.append_assoc]
  have hacc : ∀ b ∈ r₀.recordedBy ops, Accepted cap b := by
    intro b hb
    rcases List.mem_append.mp hb with hb | hb
    · exact (hrun.accepted b hb).mono hcap
    · simp only [liveRecord] at hb
      split at hb
      · cases hb
      · rw [List.mem_singleton] at hb
        subst hb
        exact Accepted.mono ⟨hlive.size_le, Nat.lt_of_le_of_lt hlive.size_le hmax'⟩ (hrun.config ▸ hcap)
  refine ⟨done, hstop, ?_, ?_, _, by rw [hlayout, Player.load_metadataRecord hfit hblock], rfl,
    fun k => Player.readN_records _ [] hacc rfl rfl (List.append_nil _).symm k⟩
  · rw [hrecords, hrun.records, recordedBy, List.length_append]
    simp [r₀]
  · rw [hbytes, hrun.bytesWritten, hlayout]
    simp only [r₀, recordedBy, List.flatMap_append, List.length_append, length_metadataRecord hfit,
      length_toLE]
    omega

/-- The test settings, metadata of one entry, and three calls, of which the second is refused
for a skip beyond its message. -/
theorem recording_reads_back_testing :
    let m : DemoMetadata := ⟨[("map", "e1m1")], by decide, by decide⟩
    let ops := [RecorderOp.message [9, 9, 1, 2, 3] 2, .message [1] 5, .writeLive [7, 7]]
    m.encodedLen ≤ DemoConfig.testing.metadataMaxSize ∧
      16 + DemoConfig.testing.metadataMaxSize < 2 ^ (31 : Nat) ∧ DemoConfig.testing.maxMessageSize < endOfStream ∧
      DemoConfig.testing.maxMessageSize ≤ 4096 ∧
      ∃ r, Recorder.start m DemoConfig.testing = .ok r ∧ ∃ done, (r.run ops).stop = .ok done ∧
        done.records = (r.recordedBy ops).length ∧ done.bytesWritten = done.file.length ∧
        ∃ p, Player.load done.file DemoConfig.testing = .ok p ∧ p.metadata = m ∧
          ∀ k, p.readN ((r.recordedBy ops).length + k) (Buffer.empty 4096) =
            (r.recordedBy ops).map (fun b => .ok (some ⟨b, 4096, 0⟩)) ++ List.replicate k (.ok none) := by
  intro m ops
  exact ⟨by decide, by decide, by decide, Nat.le_refl _,
    recording_reads_back (by decide) (by decide) (by decide) ops (Nat.le_refl _)⟩

/-- A metadata block of `2 ^ 31 - 16` bytes would put `2 ^ 31` in the record's signed 32-bit
length field: the recording does not start, although the metadata fits the block. -/
theorem start_refuses_wide_block :
    DemoMetadata.empty.encodedLen ≤ 2 ^ (31 : Nat) - 16 ∧
      Recorder.start DemoMetadata.empty { DemoConfig.standard with metadataMaxSize := 2 ^ (31 : Nat) - 16 } =
        .error (.metadata (.badHeader "record_length" (2 ^ (31 : Nat) - 1) (2 ^ (31 : Nat)))) :=
  ⟨by decide, by rfl⟩

end EntitySync
