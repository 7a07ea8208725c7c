import EntitySync.Proofs.BufferCalls
/-!
# Reading back what a message buffer was given

Writes that succeed on an empty buffer are read back, in order, by the reads that match them
(`Put.ReadBy`): each read takes exactly the bytes its write appended (`Put.ReadBy.run_of_rest`),
so a run of them gives every written value and leaves the read position at the end of the
message (`message_buffer_round_trip`). Reading through the buffer is reading with one byte reader
over its bytes (`Buffer.mapM_withReader_run`): each read leaves the read position where its
reader stopped, and the next reader starts there.
-/

namespace EntitySync

/-! ## Writes and the reads that match them -/

namespace Put

/-- What a write hands to the read that matches it. -/
def value : Put → Value
  | .uint _ n => .nat n
  | .int _ v => .int v
  | .varint v => .nat v
  | .bytes bs => .bytes bs
  | .block bs => .bytes bs
  | .string text _ => .str text

/-- The read that matches a write: the same width for an integer, a varint read whose range
holds the value, as many bytes as were written, and a block or string bound no smaller than what
was written. Each integer is in the range of its width, as the typed write methods take it. -/
inductive ReadBy : Put → Get → Prop
  | uint {w n : Nat} (h : n < 2 ^ (8 * w)) : ReadBy (.uint w n) (.uint w)
  | int {w : Nat} {v : Int} (hw : 0 < w) (lo : -(2 ^ (8 * w - 1) : Nat) ≤ v)
      (hi : v < (2 ^ (8 * w - 1) : Nat)) : ReadBy (.int w v) (.int w)
  | varU32 {v : Nat} (h : v < 2 ^ (32 : Nat)) : ReadBy (.varint v) .varU32
  | varU64 {v : Nat} (h : v < 2 ^ (64 : Nat)) : ReadBy (.varint v) .varU64
  | bytes {bs : Bytes} : ReadBy (.bytes bs) (.bytes bs.length)
  | block {bs : Bytes} {k : Nat} (h : bs.length ≤ k) : ReadBy (.block bs) (.block k)
  | string {text : String} {maxLen k : Nat} (h : (encodeUtf8 text).length ≤ k) :
      ReadBy (.string text maxLen) (.string k)

end Put

namespace Cursor

variable {c : Cursor} {rest : Bytes}

theorem readInt_of_rest {w : Nat} {v : Int} (h : c.rest = toLE w (twosComplement w v) ++ rest)
    (hw : 0 < w) (lo : -(2 ^ (8 * w - 1) : Nat) ≤ v) (hi : v < (2 ^ (8 * w - 1) : Nat)) :
    c.readInt w = .ok (v, ⟨rest, c.pos + w⟩) := by
  have htake := take_of_rest h
  rw [length_toLE] at htake
  simp [readInt, readUInt, htake, signedOf_twosComplement hw lo hi, bind, Except.bind, pure,
    Except.pure]

theorem readVarU64_of_rest {v : Nat} (h : c.rest = encodeVarint v ++ rest) (hv : v < 2 ^ (64 : Nat)) :
    c.readVarU64 = .ok (v, ⟨rest, c.pos + varintLen v⟩) := by
  -- a value below 2^64 takes at most ten groups of seven bits
  have hlen : varintLen v ≤ 10 := varintLen_le (by decide) (lt_of_lt_of_le hv (by decide))
  simp [readVarU64, readVarint, h, decodeVarint_encodeVarint rest hlen hv, bind, Except.bind, pure,
    Except.pure]

end Cursor

theorem Put.ReadBy.run_of_rest {p : Put} {g : Get} (h : p.ReadBy g) {cap : Nat}
    (hp : p.refusal cap = none) (hsize : p.encoding.length < maxSize) {c : Cursor} {rest : Bytes}
    (hc : c.rest = p.encoding ++ rest) :
    g.run.run c = .ok p.value ⟨rest, c.pos + p.encoding.length⟩ := by
  cases h with
  | uint hn =>
    simp [Get.run, ReadM.ofRead_run, Cursor.readUInt_of_rest hc hn, value, encoding]
  | int hw lo hi =>
    simp [Get.run, ReadM.ofRead_run, Cursor.readInt_of_rest hc hw lo hi, value, encoding]
  | varU32 hv =>
    simp [Get.run, ReadM.ofRead_run, Cursor.readVarU32_of_rest hc hv, value, encoding]
  | varU64 hv =>
    simp [Get.run, ReadM.ofRead_run, Cursor.readVarU64_of_rest hc hv, value, encoding]
  | bytes =>
    simp only [encoding] at hc
    simp [Get.run, ReadM.ofRead_run, Cursor.take_of_rest hc, value, encoding]
  | @block bs k hk =>
    -- the write took the block, so its length fits in 32 bits and the read's bound holds it
    have h32 : bs.length < 2 ^ (32 : Nat) := Nat.lt_of_not_le fun h32 => by simp [refusal, h32] at hp
    have hc' : c.rest = encodeVarint bs.length ++ (bs ++ rest) := by simp [hc, encoding]
    rw [Get.run, run_map, ReadM.block_run, Cursor.readVarU32_of_rest hc' h32]
    simp [Nat.not_lt.mpr hk, Cursor.take_of_rest (c := ⟨bs ++ rest, _⟩) rfl, value, encoding,
      Nat.add_assoc]
  | @string text maxLen k hk =>
    -- the write took the string, so it holds no NUL byte
    have hnul : 0 ∉ encodeUtf8 text := fun h0 => by simp [refusal, h0] at hp
    have hc' : c.rest = encodeUtf8 text ++ 0 :: rest := by simp [hc, encoding]
    have hsize' : (encodeUtf8 text).length < maxSize := by simp [encoding] at hsize; omega
    simp [Get.run, ReadM.ofRead_run, Cursor.readString_of_rest hc' hk hnul hsize', value,
      encoding, Nat.add_assoc]

/-- Reads matching a run of writes, from a cursor before their bytes, give the written values
in order and stop right after the bytes: by induction on the pairs, each read taking its write's
bytes. -/
theorem Put.ReadBy.mapM_run {ps : List Put} {gs : List Get} (h : List.Forall₂ Put.ReadBy ps gs)
    {cap : Nat} (hp : ∀ p ∈ ps, p.refusal cap = none)
    (hsize : (ps.flatMap Put.encoding).length < maxSize) {c : Cursor} {rest : Bytes}
    (hc : c.rest = ps.flatMap Put.encoding ++ rest) :
    (gs.mapM Get.run).run c =
      .ok (ps.map Put.value) ⟨rest, c.pos + (ps.flatMap Put.encoding).length⟩ := by
  induction h generalizing c with
  | nil =>
    cases c
    simp_all
  | @cons p g ps gs hpg _ ih =>
    simp only [List.flatMap_cons, List.append_assoc, List.length_append] at hc hsize ⊢
    have first := hpg.run_of_rest (hp p List.mem_cons_self) (by omega) hc
    have later := ih (fun q hq => hp q (List.mem_cons_of_mem p hq)) (by omega)
      (c := ⟨_, c.pos + p.encoding.length⟩) rfl
    simp [first, later, Nat.add_assoc]

/-! ## Reading through the buffer -/

/-- Reads through a buffer are reads with one byte reader over its bytes, from its read
position: by induction on the reads, the buffer keeping the position where each reader
stopped (`Cursor.atOffset_of_moved`). -/
theorem Buffer.mapM_withReader_run (gs : List Get) {b : Buffer} (hpos : b.readPos ≤ b.size) :
    (gs.mapM fun g => withReader g.run).run b =
      match (gs.mapM Get.run).run (Cursor.atOffset b.data b.readPos) with
      | .ok vs c => .ok vs { b with readPos := c.pos }
      | .error e c => .error e { b with readPos := c.pos } := by
  induction gs generalizing b with
  | nil =>
    rw [Cursor.atOffset_of_le hpos]
    rfl
  | cons g gs ih =>
    simp only [List.mapM_cons, EStateM.run_bind, withReader_run]
    rcases hr : g.run.run (Cursor.atOffset b.data b.readPos) with ⟨v, c₁⟩ | ⟨e, c₁⟩
    · obtain ⟨q, hq, hq'⟩ := g.atomic_run.ok hr
      obtain ⟨hle, hc₁⟩ := Cursor.atOffset_of_moved hpos hq hq'
      have hnext := ih (b := { b with readPos := c₁.pos }) hle
      simp only [hc₁] at hnext
      simp only [hnext]
      rcases (gs.mapM Get.run).run c₁ <;> rfl
    · rfl

/-! ## The round trip -/

theorem Put.forM_run_eq_ok {ps : List Put} {b b' : Buffer} (hcap : b.capacity < maxSize)
    (hb : b.size ≤ b.capacity) (h : (ps.forM Put.run).run b = .ok () b') :
    b' = b.appended (ps.flatMap Put.encoding) ∧ (∀ p ∈ ps, p.refusal b.capacity = none) ∧
      b'.size ≤ b.capacity := by
  induction ps generalizing b with
  | nil =>
    cases h
    exact ⟨by simp, by simp, hb⟩
  | cons p ps ih =>
    simp only [List.forM_eq_forM, List.forM_cons, EStateM.run_bind] at h
    rcases hr : p.run.run b with ⟨u, b₁⟩ | ⟨e, b₁⟩
    · rw [hr] at h
      obtain ⟨hp, hfit, rfl⟩ := Put.run_ok hr
      have hb₁ : (b.appended p.encoding).size ≤ b.capacity := by
        have := (Buffer.fits_iff hcap).mp hfit
        simpa [Buffer.size] using this
      obtain ⟨rfl, hps, hsize⟩ := ih (b := b.appended p.encoding) hcap hb₁ h
      refine ⟨by simp, ?_, hsize⟩
      intro q hq
      rcases List.mem_cons.mp hq with rfl | hq
      · exact hp
      · exact hps q hq
    · rw [hr] at h
      cases h

/-- Writes that succeed on an empty buffer are read back in order, through the buffer or by a
byte reader over its bytes. -/
theorem message_buffer_round_trip {maxsize : Nat} (hmax : maxsize < maxSize) {puts : List Put}
    {gets : List Get} {b : Buffer} (hread : List.Forall₂ Put.ReadBy puts gets)
    (hw : (puts.forM Put.run).run (Buffer.empty maxsize) = .ok () b) :
    b.data = puts.flatMap Put.encoding ∧
      (gets.mapM fun g => Buffer.withReader g.run).run b =
        .ok (puts.map Put.value) { b with readPos := b.size } ∧
      (gets.mapM Get.run).run (Cursor.init b.data) = .ok (puts.map Put.value) ⟨[], b.size⟩ := by
  obtain ⟨hb, hp, hsize⟩ := Put.forM_run_eq_ok (b := Buffer.empty maxsize) hmax
    (Nat.zero_le _) hw
  have hdata : b.data = puts.flatMap Put.encoding := by simp [hb, Buffer.empty]
  have hpos : b.readPos = 0 := by simp [hb, Buffer.empty]
  have hbsize : b.size = (puts.flatMap Put.encoding).length := by simp [Buffer.size, hdata]
  have hlen : (puts.flatMap Put.encoding).length < maxSize :=
    Nat.lt_of_le_of_lt (hbsize ▸ hsize) hmax
  have hcursor : (gets.mapM Get.run).run (Cursor.init (puts.flatMap Put.encoding)) =
      .ok (puts.map Put.value) ⟨[], (puts.flatMap Put.encoding).length⟩ := by
    simpa [Cursor.init] using Put.ReadBy.mapM_run hread hp hlen
      (show (Cursor.init (puts.flatMap Put.encoding)).rest = puts.flatMap Put.encoding ++ [] by
        simp [Cursor.init])
  refine ⟨hdata, ?_, by rw [hdata, hcursor, hbsize]⟩
  rw [Buffer.mapM_withReader_run gets (by omega), hpos, hdata,
    show Cursor.atOffset (puts.flatMap Put.encoding) 0 = Cursor.init (puts.flatMap Put.encoding) by
      simp [Cursor.atOffset, Cursor.init], hcursor, hbsize]

/-- A 16-bit number, a negative byte, a two-group varint, a block and a string, written into a
buffer of 64 bytes and read back through it. -/
theorem message_buffer_round_trip_mixed :
    (64 : Nat) < maxSize ∧
      List.Forall₂ Put.ReadBy
        [.uint 2 513, .int 1 (-3), .varint 300, .block [1, 2], .string "hi" 16]
        [.uint 2, .int 1, .varU32, .block 8, .string 16] ∧
      (([.uint 2 513, .int 1 (-3), .varint 300, .block [1, 2], .string "hi" 16] : List Put).forM
          Put.run).run (Buffer.empty 64) = .ok () ⟨[1, 2, 253, 172, 2, 2, 1, 2, 104, 105, 0], 64, 0⟩ ∧
      (([.uint 2, .int 1, .varU32, .block 8, .string 16] : List Get).mapM fun g =>
          Buffer.withReader g.run).run ⟨[1, 2, 253, 172, 2, 2, 1, 2, 104, 105, 0], 64, 0⟩ =
        .ok [.nat 513, .int (-3), .nat 300, .bytes [1, 2], .str "hi"]
          ⟨[1, 2, 253, 172, 2, 2, 1, 2, 104, 105, 0], 64, 11⟩ := by
  have hmax : (64 : Nat) < maxSize := by decide
  have hread : List.Forall₂ Put.ReadBy
      [.uint 2 513, .int 1 (-3), .varint 300, .block [1, 2], .string "hi" 16]
      [.uint 2, .int 1, .varU32, .block 8, .string 16] :=
    .cons (.uint (by decide)) <| .cons (.int (by decide) (by decide) (by decide)) <|
      .cons (.varU32 (by decide)) <| .cons (.block (by decide)) <|
        .cons (.string (by decide +kernel)) .nil
  have hw : (([.uint 2 513, .int 1 (-3), .varint 300, .block [1, 2], .string "hi" 16] : List Put).forM
      Put.run).run (Buffer.empty 64) = .ok () ⟨[1, 2, 253, 172, 2, 2, 1, 2, 104, 105, 0], 64, 0⟩ := by
    decide +kernel
  exact ⟨hmax, hread, hw, (message_buffer_round_trip hmax hread hw).2.1⟩

end EntitySync
