import EntitySync.Proofs.Recording
import EntitySync.Proofs.FieldGrammar
/-!
# The metadata record at any offset

A metadata record is a header of five 32-bit fields, then its block. `MetadataHeader.layout`
is the header the format gives a block of `size` bytes, `used` of them in use, in a record at
`recordOffset`: the record's length `16 + size`, the length `12 + size` of what follows the
second field, the block's offset, and the two sizes.

Main statements:
* `writeMetadataRecord_eq_ok_layout`: a write that the header fields admit writes the layout's
  header, the entries and zeros to the end of the block.
* `readMetadataRecord_layout`: that record is read back, with the size of its block, from any
  position and whatever follows it, under any limit the block fits.
* `readMetadataRecord_eq_ok`: a read succeeds only on the layout's header for the block it
  returns, and takes exactly that record.
* `writeMetadataRecord_refused_iff`: when a write fails. The block's offset is computed as the
  record's offset plus twenty in signed 64-bit arithmetic, so an offset within `2 ^ 31` of
  `2 ^ 64` wraps around to a small one that fits its field.
-/

namespace EntitySync

/-! ## Reads that succeed -/

namespace SourceRead

variable {α β : Type} {s s' s'' : Source}

theorem run_bind_eq_ok {x : SourceRead α} {f : α → SourceRead β} {b : β}
    (h : (x >>= f).run s = (.ok b, s'')) :
    ∃ a s', x.run s = (.ok a, s') ∧ (f a).run s' = (.ok b, s'') := by
  simp only [run, ExceptT.run_bind, StateT.run_bind] at h
  rcases hx : (ExceptT.run x).run s with ⟨r | a, s₁⟩
  · rw [hx] at h
    cases h
  · rw [hx] at h
    exact ⟨a, s₁, hx, h⟩

theorem throw_bind_run (e : DemoError) (f : α → SourceRead β) (s : Source) :
    ((throw e : SourceRead α) >>= f).run s = (.error e, s) := rfl

theorem run_throw (e : DemoError) (s : Source) : (throw e : SourceRead α).run s = (.error e, s) := rfl

theorem run_pure (a : α) (s : Source) : (pure a : SourceRead α).run s = (.ok a, s) := rfl

theorem bytes_run_eq_ok {n : Nat} {bs : Bytes} (h : (bytes n).run s = (.ok bs, s')) :
    s.rest = bs ++ s'.rest ∧ bs.length = n ∧ s'.pos = s.pos + n := by
  rw [bytes_run, Source.readExact] at h
  split_ifs at h with hn
  · simp only [Except.mapError, Prod.mk.injEq, Except.ok.injEq] at h
    obtain ⟨rfl, rfl⟩ := h
    simp [hn]
  · simp [Except.mapError] at h

theorem word_run_eq_ok {w x : Nat} (h : (word w).run s = (.ok x, s')) :
    s.rest = toLE w x ++ s'.rest ∧ x < 2 ^ (8 * w) ∧ s'.pos = s.pos + w := by
  obtain ⟨bs, s₁, hb, h⟩ := run_bind_eq_ok h
  cases h
  obtain ⟨hrest, hlen, hpos⟩ := bytes_run_eq_ok hb
  exact ⟨by rw [toLE_ofLE_of_length hlen, hrest], ofLE_lt_of_length hlen, hpos⟩

theorem signed_run_eq_ok {w : Nat} {v : Int} (hw : 0 < w) (h : (signed w).run s = (.ok v, s')) :
    s.rest = toLE w (twosComplement w v) ++ s'.rest ∧
      (-(2 ^ (8 * w - 1) : Nat) ≤ v ∧ v < (2 ^ (8 * w - 1) : Nat)) ∧ s'.pos = s.pos + w := by
  obtain ⟨x, s₁, hx, h⟩ := run_bind_eq_ok h
  cases h
  obtain ⟨bs, s₂, hb, h⟩ := run_bind_eq_ok hx
  cases h
  obtain ⟨hrest, hlen, hpos⟩ := bytes_run_eq_ok hb
  exact ⟨by rw [toLE_twosComplement_signedOf hlen, hrest], signedOf_mem hw (ofLE_lt_of_length hlen),
    hpos⟩

theorem signed_bind_run_of_mem {w : Nat} {v : Int} (more : Bytes) (pos : Nat) (f : Int → SourceRead β)
    (hw : 0 < w) (lo : -(2 ^ (8 * w - 1) : Nat) ≤ v) (hi : v < (2 ^ (8 * w - 1) : Nat)) :
    (signed w >>= f).run ⟨toLE w (twosComplement w v) ++ more, pos⟩ = (f v).run ⟨more, pos + w⟩ :=
  run_bind_of_ok (signed_run_of_rest rfl hw lo hi) f

end SourceRead

/-! ## Signed 64-bit wrapping -/

theorem wrapSigned64_of_mem {x : Int} (lo : -2 ^ (63 : Nat) ≤ x) (hi : x < 2 ^ (63 : Nat)) : wrapSigned64 x = x := by
  have hpat : twosComplement 8 x < 2 ^ (8 * 8) := by
    unfold twosComplement
    have := Int.emod_lt_of_pos x (show (0 : Int) < (2 ^ (8 * 8) : Nat) by norm_num)
    omega
  rw [wrapSigned64, ← ofLE_toLE_of_lt hpat, signedOf_twosComplement (by decide) (by simpa using lo)
    (by simpa using hi)]

theorem wrapSigned64_natCast_of_ge {n : Nat} (lo : 2 ^ (63 : Nat) ≤ n) (hi : n < 2 ^ (64 : Nat)) :
    wrapSigned64 n = (n : Int) - 2 ^ (64 : Nat) := by
  rw [wrapSigned64, twosComplement_natCast (by simpa using hi), signedOf, if_neg (by simpa using lo)]
  simp

theorem blockOffset_eq {off : Nat} (h : off < 2 ^ (64 : Nat)) :
    blockOffset off = if off + 20 < 2 ^ (63 : Nat) then (off + 20 : Int) else (off + 20 : Int) - 2 ^ (64 : Nat) := by
  have h20 : ((recordPrefixSize + metadataHeaderSize : Nat) : Int) = 20 := rfl
  unfold blockOffset
  rw [h20]
  by_cases hlow : off < 2 ^ (63 : Nat)
  · rw [wrapSigned64_natCast hlow]
    split_ifs with hsum
    · exact_mod_cast wrapSigned64_natCast hsum
    · exact_mod_cast wrapSigned64_natCast_of_ge (n := off + 20) (by omega) (by omega)
  · -- a record offset in the top half is negative as a signed value; twenty more stays in range
    rw [wrapSigned64_natCast_of_ge (by omega) h, if_neg (by omega),
      wrapSigned64_of_mem (by omega) (by omega)]
    ring

/-- The block's offset fits its signed 32-bit field exactly when the record's offset plus
twenty is below `2 ^ 31`, or within `2 ^ 31` of `2 ^ 64`, where it wraps. -/
theorem blockOffset_fits_iff {off : Nat} (h : off < 2 ^ (64 : Nat)) :
    (-2 ^ (31 : Nat) ≤ blockOffset off ∧ blockOffset off < 2 ^ (31 : Nat)) ↔
      off + 20 < 2 ^ (31 : Nat) ∨ 2 ^ (64 : Nat) - 2 ^ (31 : Nat) ≤ off + 20 := by
  rw [blockOffset_eq h]
  split_ifs <;> omega

/-! ## The layout of a record -/

/-- The header of a metadata record: the record's length, the length of what follows the second
field, the block's offset in the file, the bytes of the block in use, and the block's size. -/
structure MetadataHeader where
  recordLen : Nat
  total : Int
  offset : Int
  realSize : Int
  maxSize : Int
  deriving DecidableEq, Repr

namespace MetadataHeader

/-- The twenty bytes of a header: an unsigned 32-bit length, then four signed 32-bit fields,
each little-endian. -/
def encoding (h : MetadataHeader) : Bytes :=
  toLE 4 h.recordLen ++ toLE 4 (twosComplement 4 h.total) ++ toLE 4 (twosComplement 4 h.offset) ++
    toLE 4 (twosComplement 4 h.realSize) ++ toLE 4 (twosComplement 4 h.maxSize)

@[simp] theorem length_encoding (h : MetadataHeader) : h.encoding.length = 20 := by
  simp [encoding]

/-- The header of a record at `recordOffset` whose block has `size` bytes, `used` in use. -/
def layout (size used recordOffset : Nat) : MetadataHeader :=
  ⟨16 + size, 12 + size, blockOffset recordOffset, used, size⟩

theorem reads {s s₁ s₂ s₃ s₄ s₅ : Source} {r : Nat} {t o u z : Int}
    (hr : (SourceRead.word 4).run s = (.ok r, s₁)) (ht : (SourceRead.signed 4).run s₁ = (.ok t, s₂))
    (ho : (SourceRead.signed 4).run s₂ = (.ok o, s₃)) (hu : (SourceRead.signed 4).run s₃ = (.ok u, s₄))
    (hz : (SourceRead.signed 4).run s₄ = (.ok z, s₅)) :
    s.rest = (⟨r, t, o, u, z⟩ : MetadataHeader).encoding ++ s₅.rest ∧ s₅.pos = s.pos + 20 ∧
      z < 2 ^ (31 : Nat) := by
  obtain ⟨h0, -, p0⟩ := SourceRead.word_run_eq_ok hr
  obtain ⟨h1, -, p1⟩ := SourceRead.signed_run_eq_ok (by decide) ht
  obtain ⟨h2, -, p2⟩ := SourceRead.signed_run_eq_ok (by decide) ho
  obtain ⟨h3, -, p3⟩ := SourceRead.signed_run_eq_ok (by decide) hu
  obtain ⟨h4, ⟨-, hz⟩, p4⟩ := SourceRead.signed_run_eq_ok (by decide) hz
  exact ⟨by simp [encoding, h0, h1, h2, h3, h4], by omega, by simpa using hz⟩

end MetadataHeader

theorem eq_of_checkHeader {field : String} {found expected : Int}
    (h : ∀ e, checkHeader field found expected = .error e → False) : found = expected := by
  unfold checkHeader at h
  split_ifs at h with he
  · exact he
  · exact (h _ rfl).elim

/-- A write that the header fields admit writes the layout's header, the entries, and zeros to
the end of the block. -/
theorem writeMetadataRecord_eq_ok_layout {m : DemoMetadata} {size off : Nat}
    (hfit : m.encodedLen ≤ size) (hsize : 16 + size < 2 ^ (31 : Nat))
    (hoff : -2 ^ (31 : Nat) ≤ blockOffset off ∧ blockOffset off < 2 ^ (31 : Nat)) :
    writeMetadataRecord m size off =
      .ok ((MetadataHeader.layout size m.encodedLen off).encoding ++ m.blobEntries ++
        List.replicate (size - m.encodedLen) 0) := by
  have hwrap := wrapSigned64_natCast (n := size) (by omega)
  simp only [writeMetadataRecord, if_neg (Nat.not_lt.mpr hfit), headerField, hwrap]
  rw [if_pos (by omega), if_pos hoff, if_pos (by omega)]
  have h16 : twosComplement 4 (16 + (size : Int)) = 16 + size := by
    exact_mod_cast twosComplement_natCast (w := 4) (n := 16 + size) (by omega)
  simp only [bind, Except.bind, pure, Except.pure, h16, MetadataHeader.layout,
    MetadataHeader.encoding, List.append_assoc]

theorem headerField_eq_ok {field : String} {v x : Int} :
    headerField field v = .ok x ↔ (-2 ^ (31 : Nat) ≤ v ∧ v < 2 ^ (31 : Nat)) ∧ x = v := by
  unfold headerField
  split_ifs with h
  · rw [Except.ok.injEq]
    exact ⟨fun e => ⟨h, e.symm⟩, fun ⟨_, e⟩ => e.symm⟩
  · simp only [false_iff]
    exact fun ⟨hv, _⟩ => h hv

theorem writeMetadataRecord_eq_ok_inv {m : DemoMetadata} {size off : Nat} {bytes : Bytes}
    (hsize : size < 2 ^ (63 : Nat)) (h : writeMetadataRecord m size off = .ok bytes) :
    m.encodedLen ≤ size ∧ 16 + size < 2 ^ (31 : Nat) ∧ -2 ^ (31 : Nat) ≤ blockOffset off ∧ blockOffset off < 2 ^ (31 : Nat) := by
  simp only [writeMetadataRecord, wrapSigned64_natCast hsize] at h
  split at h
  · obtain ⟨_, hthrow, -⟩ := Except.bind_eq_ok.mp h
    cases hthrow
  rename_i hfit
  obtain ⟨total, -, h⟩ := Except.bind_eq_ok.mp h
  obtain ⟨offset, hoff, h⟩ := Except.bind_eq_ok.mp h
  obtain ⟨recordLen, hrec, -⟩ := Except.bind_eq_ok.mp h
  obtain ⟨⟨-, hlen⟩, -⟩ := headerField_eq_ok.mp hrec
  obtain ⟨hoff, -⟩ := headerField_eq_ok.mp hoff
  exact ⟨by omega, by omega, hoff⟩

/-- A write fails exactly when the entries overflow the block, the record's length `16 + size`
overflows its signed 32-bit field, or the block's offset, as computed, overflows its own. -/
theorem writeMetadataRecord_refused_iff {m : DemoMetadata} {size off : Nat} (hsize : size < 2 ^ (63 : Nat)) :
    (∃ e, writeMetadataRecord m size off = .error e) ↔
      size < m.encodedLen ∨ 2 ^ (31 : Nat) ≤ 16 + size ∨
        ¬(-2 ^ (31 : Nat) ≤ blockOffset off ∧ blockOffset off < 2 ^ (31 : Nat)) := by
  constructor
  · rintro ⟨e, he⟩
    by_cases hfit : size < m.encodedLen
    · exact .inl hfit
    by_cases hlen : 2 ^ (31 : Nat) ≤ 16 + size
    · exact .inr (.inl hlen)
    refine .inr (.inr fun hoff => ?_)
    rw [writeMetadataRecord_eq_ok_layout (by omega) (by omega) hoff] at he
    cases he
  · intro hbad
    rcases hw : writeMetadataRecord m size off with e | bytes
    · exact ⟨e, rfl⟩
    · obtain ⟨hfit, hlen, hoff⟩ := writeMetadataRecord_eq_ok_inv hsize hw
      rcases hbad with hbad | hbad | hbad
      · omega
      · omega
      · exact (hbad hoff).elim

theorem length_metadataRecord_layout (m : DemoMetadata) {size : Nat} (used off : Nat)
    (hfit : m.encodedLen ≤ size) :
    ((MetadataHeader.layout size used off).encoding ++ m.blobEntries ++
      List.replicate (size - m.encodedLen) 0).length = metadataRecordLen size := by
  simp only [List.length_append, MetadataHeader.length_encoding, DemoMetadata.length_blobEntries,
    List.length_replicate, metadataRecordLen, recordPrefixSize, metadataHeaderSize]
  omega

/-- The record a write gives is read back with the size of its block, from any position and
whatever follows it, under any limit the block fits, by a read at the same record offset. -/
theorem readMetadataRecord_layout {m : DemoMetadata} {size limit off : Nat}
    (hfit : m.encodedLen ≤ size) (hsize : 16 + size < 2 ^ (31 : Nat))
    (hoff : -2 ^ (31 : Nat) ≤ blockOffset off ∧ blockOffset off < 2 ^ (31 : Nat)) (hlimit : size ≤ limit)
    (more : Bytes) (pos : Nat) :
    (readMetadataRecord limit off).run
        ⟨(MetadataHeader.layout size m.encodedLen off).encoding ++ m.blobEntries ++
          List.replicate (size - m.encodedLen) 0 ++ more, pos⟩ =
      (.ok (m, size), ⟨more, pos + metadataRecordLen size⟩) := by
  simp only [readMetadataRecord, MetadataHeader.layout, MetadataHeader.encoding, List.append_assoc]
  rw [SourceRead.word_bind_run _ _ _ (by omega)]
  rw [SourceRead.signed_bind_run_of_mem _ _ _ (by decide) (by simp; omega) (by simp; omega)]
  rw [SourceRead.signed_bind_run_of_mem _ _ _ (by decide) (by simpa using hoff.1) (by simpa using hoff.2)]
  rw [SourceRead.signed_bind_run_of_mem _ _ _ (by decide) (by simp) (by simp; omega)]
  rw [SourceRead.signed_bind_run_of_mem _ _ _ (by decide) (by simp) (by simp; omega)]
  have hcheck (field : String) (x : Int) : checkHeader field x x = .ok () := by simp [checkHeader]
  have hblob : (m.blobEntries ++ List.replicate (size - m.encodedLen) 0).length = size := by
    simp [DemoMetadata.length_blobEntries]
    omega
  simp only [if_neg (show ¬((size : Int) < 0 ∨ (limit : Int) < size) by omega),
    show ((16 + size : Nat) : Int) = 16 + (size : Int) by push_cast; rfl, hcheck,
    if_neg (show ¬((m.encodedLen : Int) < 0 ∨ (size : Int) < m.encodedLen) by omega),
    Int.toNat_natCast]
  rw [← List.append_assoc, SourceRead.bytes_bind_run _ _ _ hblob,
    List.take_left' DemoMetadata.length_blobEntries, DemoMetadata.ofBlob_blobEntries]
  simp only [metadataRecordLen, recordPrefixSize, metadataHeaderSize]
  congr 2
  omega

/-- A read succeeds only on a record with the layout's header for the block it returns: the
record's length and the length after the second field follow from the block's size, the block's
offset is that of the record offset asked for, and the bytes in use lie within the block, whose
entries in use are the metadata returned. The read takes exactly that record. -/
theorem readMetadataRecord_eq_ok {limit off n : Nat} {s s' : Source} {m : DemoMetadata}
    (h : (readMetadataRecord limit off).run s = (.ok (m, n), s')) :
    n ≤ limit ∧ n < 2 ^ (31 : Nat) ∧ ∃ used blob, used ≤ n ∧ blob.length = n ∧
      s.rest = (MetadataHeader.layout n used off).encoding ++ blob ++ s'.rest ∧
      s'.pos = s.pos + metadataRecordLen n ∧ DemoMetadata.ofBlob (blob.take used) = .ok m := by
  unfold readMetadataRecord at h
  obtain ⟨r, s₁, hr, h⟩ := SourceRead.run_bind_eq_ok h
  obtain ⟨t, s₂, ht, h⟩ := SourceRead.run_bind_eq_ok h
  obtain ⟨o, s₃, ho, h⟩ := SourceRead.run_bind_eq_ok h
  obtain ⟨u, s₄, hu, h⟩ := SourceRead.run_bind_eq_ok h
  obtain ⟨z, s₅, hz, h⟩ := SourceRead.run_bind_eq_ok h
  obtain ⟨hhead, hpos, hz31⟩ := MetadataHeader.reads hr ht ho hu hz
  -- every check that refuses throws, so the read got past each of them
  dsimp only at h
  split at h
  · rw [SourceRead.throw_bind_run] at h
    cases h
  rename_i hlim
  split at h
  · rw [SourceRead.throw_bind_run] at h
    cases h
  rename_i _ hrec
  split at h
  · rw [SourceRead.throw_bind_run] at h
    cases h
  rename_i _ htot
  split at h
  · rw [SourceRead.throw_bind_run] at h
    cases h
  rename_i _ hoff
  split at h
  · rw [SourceRead.throw_bind_run] at h
    cases h
  rename_i hreal
  obtain ⟨blob, s₆, hb, h⟩ := SourceRead.run_bind_eq_ok h
  obtain ⟨hblob, hlen, hpos'⟩ := SourceRead.bytes_run_eq_ok hb
  split at h
  · rename_i m' hm
    rw [SourceRead.run_pure, Prod.mk.injEq, Except.ok.injEq, Prod.mk.injEq] at h
    obtain ⟨⟨rfl, rfl⟩, rfl⟩ := h
    have hlayout : (⟨r, t, o, u, z⟩ : MetadataHeader) = MetadataHeader.layout z.toNat u.toNat off := by
      have := eq_of_checkHeader hrec
      simp only [MetadataHeader.layout, MetadataHeader.mk.injEq]
      refine ⟨by omega, by rw [eq_of_checkHeader htot]; omega, eq_of_checkHeader hoff, by omega,
        by omega⟩
    refine ⟨by omega, by omega, u.toNat, blob, by omega, hlen, ?_, ?_, hm⟩
    · rw [hhead, hlayout, hblob, List.append_assoc]
    · simp only [metadataRecordLen, recordPrefixSize, metadataHeaderSize]
      omega
  · rw [SourceRead.run_throw] at h
    cases h

/-- Metadata records: when a write is refused, and that a written record reads back as its
metadata and block size. Near the top of the 64-bit range the record's offset wraps. -/
theorem metadata_record_round_trip (m : DemoMetadata) (size off : Nat)
    (hsize : size < 2 ^ (63 : Nat)) (hoff : off < 2 ^ (64 : Nat)) :
    ((∃ e, writeMetadataRecord m size off = .error e) ↔
        size < m.encodedLen ∨ 2 ^ (31 : Nat) ≤ 16 + size ∨
          (2 ^ (31 : Nat) ≤ off + 20 ∧ off + 20 < 2 ^ (64 : Nat) - 2 ^ (31 : Nat))) ∧
    (m.encodedLen ≤ size → 16 + size < 2 ^ (31 : Nat) → off + 20 < 2 ^ (31 : Nat) →
      ∃ bytes, writeMetadataRecord m size off = .ok bytes ∧ bytes.length = metadataRecordLen size ∧
        ∀ limit, size ≤ limit → ∀ (more : Bytes) (pos : Nat),
          (readMetadataRecord limit off).run ⟨bytes ++ more, pos⟩ =
            (.ok (m, size), ⟨more, pos + metadataRecordLen size⟩)) ∧
    (∀ (limit n : Nat) (s s' : Source) (m' : DemoMetadata),
      (readMetadataRecord limit off).run s = (.ok (m', n), s') →
      n ≤ limit ∧ ∃ used blob, used ≤ n ∧ blob.length = n ∧
        s.rest = (MetadataHeader.layout n used off).encoding ++ blob ++ s'.rest ∧
        DemoMetadata.ofBlob (blob.take used) = .ok m') := by
  refine ⟨?_, fun hfit hwide hfits => ?_, fun limit n s s' m' h => ?_⟩
  · rw [writeMetadataRecord_refused_iff hsize, blockOffset_fits_iff hoff]
    omega
  · -- below 2 ^ 63 no wrapping happens, so the offset is the record's plus twenty
    have hfits' : -2 ^ (31 : Nat) ≤ blockOffset off ∧ blockOffset off < 2 ^ (31 : Nat) :=
      (blockOffset_fits_iff hoff).mpr (.inl hfits)
    exact ⟨_, writeMetadataRecord_eq_ok_layout hfit hwide hfits',
      length_metadataRecord_layout m _ _ hfit, fun limit hlimit more pos =>
        readMetadataRecord_layout hfit hwide hfits' hlimit more pos⟩
  · obtain ⟨hn, -, used, blob, hused, hlen, hrest, -, hm'⟩ := readMetadataRecord_eq_ok h
    exact ⟨hn, used, blob, hused, hlen, hrest, hm'⟩

/-- The sample of the format's own test: two entries in a block of 64 bytes at the start of a
file, written, read back, and taken apart again. -/
theorem metadata_record_round_trip_sample :
    let m : DemoMetadata := ⟨[("map", "e1m1"), ("player", "ranger")], by decide, by decide⟩
    64 < 2 ^ (63 : Nat) ∧ 0 < 2 ^ (64 : Nat) ∧ m.encodedLen ≤ 64 ∧ 16 + 64 < 2 ^ (31 : Nat) ∧ 0 + 20 < 2 ^ (31 : Nat) ∧
      ∃ bytes, writeMetadataRecord m 64 0 = .ok bytes ∧ bytes.length = metadataRecordLen 64 ∧
        (readMetadataRecord 64 0).run ⟨bytes, 0⟩ = (.ok (m, 64), ⟨[], metadataRecordLen 64⟩) ∧
        ∃ used blob, used ≤ 64 ∧ blob.length = 64 ∧
          bytes = (MetadataHeader.layout 64 used 0).encoding ++ blob ∧
          DemoMetadata.ofBlob (blob.take used) = .ok m := by
  intro m
  have hlen : m.encodedLen ≤ 64 := by decide
  have records := metadata_record_round_trip m 64 0 (by norm_num) (by norm_num)
  obtain ⟨bytes, hwrite, hbytes, hread⟩ := records.2.1 hlen (by norm_num) (by norm_num)
  have hback := hread 64 le_rfl [] 0
  rw [List.append_nil, Nat.zero_add] at hback
  obtain ⟨-, used, blob, hused, hblob, hrest, hm'⟩ := records.2.2 64 64 _ _ m hback
  rw [List.append_nil] at hrest
  exact ⟨by norm_num, by norm_num, hlen, by norm_num, by norm_num, bytes, hwrite, hbytes,
    hback, used, blob, hused, hblob, hrest, hm'⟩

/-- A record at the last 64-bit offset is written, not refused: the record's offset plus twenty
wraps around to nineteen, which the header then carries. -/
theorem metadata_record_top_offset_wraps :
    blockOffset (2 ^ (64 : Nat) - 1) = 19 ∧
      ∃ bytes, writeMetadataRecord ⟨[("k", "v")], by decide, by decide⟩ 8 (2 ^ (64 : Nat) - 1) = .ok bytes :=
  ⟨by decide, _, writeMetadataRecord_eq_ok_layout (by decide) (by decide) (by decide)⟩

end EntitySync
