import EntitySync.Proofs.Codes
/-!
# Frames read back

A frame that was written decodes back to its header and its sections, as long as the decoder's
limits admit it; the config-string table written into a section body decodes back to its
entries in order.

Two of the decoder's limits are not checked by any writer: the number of sections a frame may
hold and the number of entries a config-string table may hold. `decodeFrame_encoding` and
`decodeConfigStrings_encoding` say what the decoder does with a written frame or table
whichever side of those limits it lies: it gives back what was written, or it refuses with the
limit that was exceeded. `decodeFrame_written_iff` says exactly which written frames are read
back: those whose header is consistent and whose sections keep to every limit of the decoder.
-/

namespace EntitySync

namespace Header

theorem parse_encoding (h : Header) (rest : Bytes) : parse (h.encoding ++ rest) = h := by
  obtain ⟨v, ⟨f⟩, hash, t, bt, pl⟩ := h
  simp [parse, encoding, fieldAt, List.drop_append, ofLE_toLE, List.drop_eq_nil_of_le]

theorem magic_encoding (h : Header) (rest : Bytes) : ofLE ((h.encoding ++ rest).take 4) = frameMagic := by
  simp [encoding, ofLE_toLE, frameMagic]

end Header

/-! ## Sections -/

theorem sectionLen_le_payloadSize {s : Section} {ss : List Section} (hs : s ∈ ss) :
    sectionLen s.body.length ≤ payloadSize ss := by
  unfold payloadSize
  exact List.single_le_sum (fun _ _ => Nat.zero_le _) _ (List.mem_map_of_mem hs)

theorem body_length_lt_of_payloadSize {ss : List Section} (hp : payloadSize ss < 2 ^ (32 : Nat)) :
    ∀ s ∈ ss, s.body.length < 2 ^ (32 : Nat) := by
  intro s hs
  have := sectionLen_le_payloadSize hs
  unfold sectionLen at this
  omega

/-- The section decoder at a written section: the count bound, the length bound and a repeated
kind are its only refusals; otherwise it takes the section and goes on after it. -/
theorem decodeSectionsFrom_encoding_append {limits : FrameLimits} {acc : List Section}
    {s : Section} {rest : Bytes} (h32 : s.body.length < 2 ^ (32 : Nat)) :
    decodeSectionsFrom limits acc (s.encoding ++ rest) =
      if limits.maxSections ≤ acc.length then
        .error (.limitExceeded .sectionCount limits.maxSections (acc.length + 1))
      else if limits.maxSectionLen < s.body.length then
        .error (.limitExceeded .sectionLength limits.maxSectionLen s.body.length)
      else if acc.any (·.tag == s.tag) then .error (.duplicateSection s.tag)
      else decodeSectionsFrom limits (acc ++ [s]) rest := by
  obtain ⟨tag, body⟩ := s
  have htag : (UInt8.ofNat tag.code).toNat = tag.code := by
    cases tag <;> rfl
  have hafter : (encodeVarint body.length ++ (body ++ rest)).drop (varintLen body.length) =
      body ++ rest :=
    List.drop_left' (length_encodeVarint _)
  rw [Section.encoding, List.cons_append, decodeSectionsFrom]
  by_cases hfull : limits.maxSections ≤ acc.length
  · simp [hfull]
  · simp [List.append_assoc, decodeVarU32_encodeVarint _ h32, hfull, hafter, htag,
      SectionTag.ofCode?_code]

/-- The section decoder cuts written sections back out of the payload, one by one after the
sections `acc` it already found, until it meets the section that goes over the count bound. -/
theorem decodeSectionsFrom_encoding {limits : FrameLimits} {ss acc : List Section}
    (hlen : ∀ s ∈ ss, s.body.length ≤ limits.maxSectionLen ∧ s.body.length < 2 ^ (32 : Nat))
    (htags : ((acc ++ ss).map (·.tag)).Nodup) (hacc : acc.length ≤ limits.maxSections) :
    decodeSectionsFrom limits acc (ss.flatMap Section.encoding) =
      if acc.length + ss.length ≤ limits.maxSections then .ok (acc ++ ss)
      else .error (.limitExceeded .sectionCount limits.maxSections (limits.maxSections + 1)) := by
  induction ss generalizing acc with
  | nil => simp [decodeSectionsFrom, hacc]
  | cons s ss ih =>
    obtain ⟨hmax, h32⟩ := hlen s (by simp)
    rw [List.flatMap_cons, decodeSectionsFrom_encoding_append h32]
    by_cases hfull : limits.maxSections ≤ acc.length
    · -- the bound is reached: the next section is refused whatever it holds
      have heq : acc.length = limits.maxSections := by omega
      simp [heq]
    · have hfresh : acc.any (·.tag == s.tag) = false := by
        have hnd : (acc.map (·.tag) ++ s.tag :: ss.map (·.tag)).Nodup := by simpa using htags
        simp only [List.any_eq_false, beq_iff_eq]
        intro x hx hxs
        exact (List.nodup_append.mp hnd).2.2 _ (List.mem_map_of_mem hx) _ (by simp) hxs
      have hrest := @ih (acc ++ [s]) (fun t ht => hlen t (by simp [ht]))
        (by simpa using htags) (by simp; omega)
      rw [if_neg hfull, if_neg (Nat.not_lt.mpr hmax), hfresh, if_neg Bool.false_ne_true, hrest]
      simp [Nat.add_assoc, Nat.add_comm 1]

/-- A payload of written sections is cut back into them when there are at most `maxSections`,
each within the length bound and no two of the same kind; with more, the decoder refuses. -/
theorem decodeSections_encoding {limits : FrameLimits} {ss : List Section}
    (hlen : ∀ s ∈ ss, s.body.length ≤ limits.maxSectionLen ∧ s.body.length < 2 ^ (32 : Nat))
    (htags : (ss.map (·.tag)).Nodup) :
    decodeSections (ss.flatMap Section.encoding) limits =
      if ss.length ≤ limits.maxSections then .ok ss
      else .error (.limitExceeded .sectionCount limits.maxSections (limits.maxSections + 1)) := by
  simpa [decodeSections] using
    @decodeSectionsFrom_encoding _ _ [] hlen (by simpa using htags) (Nat.zero_le _)

/-! ## Frames -/

/-- A written frame decodes to its header, with the payload length the writer filled in, and
its sections, under limits that admit its size and its sections' lengths, when its header is
consistent and its sections are of distinct kinds. Whether it decodes then depends on the count
of its sections alone. -/
theorem decodeFrame_encoding {limits : FrameLimits} {h : Header} {ss : List Section}
    (hver : h.version.toNat = frameVersion) (hflags : h.flags.isValid = true)
    (hbase : h.baselineOk = true) (hp : payloadSize ss < 2 ^ (32 : Nat))
    (hmsg : headerSize + payloadSize ss ≤ limits.maxMessageBytes)
    (hlen : ∀ s ∈ ss, s.body.length ≤ limits.maxSectionLen) (htags : (ss.map (·.tag)).Nodup) :
    decodeFrame ({ h with payloadLen := UInt32.ofNat (payloadSize ss) }.encoding ++
        ss.flatMap Section.encoding) limits =
      if ss.length ≤ limits.maxSections then
        .ok ⟨{ h with payloadLen := UInt32.ofNat (payloadSize ss) }, ss⟩
      else .error (.limitExceeded .sectionCount limits.maxSections (limits.maxSections + 1)) := by
  have hsec : ∀ s ∈ ss, s.body.length ≤ limits.maxSectionLen ∧ s.body.length < 2 ^ (32 : Nat) :=
    fun s hs => ⟨hlen s hs, body_length_lt_of_payloadSize hp s hs⟩
  have hpay : (UInt32.ofNat (payloadSize ss)).toNat = payloadSize ss :=
    UInt32.toNat_ofNat_of_lt' hp
  have hbase' : ({ h with payloadLen := UInt32.ofNat (payloadSize ss) } : Header).baselineOk =
      h.baselineOk := rfl
  have hdrop : ({ h with payloadLen := UInt32.ofNat (payloadSize ss) }.encoding ++
      ss.flatMap Section.encoding).drop headerSize = ss.flatMap Section.encoding :=
    List.drop_left' (Header.length_encoding _)
  -- the header checks pass one after the other; each is rewritten away before the next, as the
  -- checks share their continuation
  unfold decodeFrame
  rw [length_frame, if_neg (Nat.not_lt.mpr (Nat.le_add_right _ _)), if_neg (Nat.not_lt.mpr hmsg),
    Header.magic_encoding, Header.parse_encoding, if_neg (by simp)]
  simp only [hver, hflags, hbase', hbase, hdrop, hpay, length_flatMap_encoding, bne_self_eq_false,
    Bool.not_true, Bool.false_eq_true, if_false, decodeSections_encoding hsec htags]
  split <;> rfl

/-! ## Which written frames are read back -/

/-- A section decoder that read written sections to the end found each body within the length
bound, no tag repeated, and no more sections than the count bound allows. -/
theorem decodeSectionsFrom_encoding_eq_ok {limits : FrameLimits} {ss acc r : List Section}
    (h32 : ∀ s ∈ ss, s.body.length < 2 ^ (32 : Nat)) (hacc : (acc.map (·.tag)).Nodup)
    (hcount : acc.length ≤ limits.maxSections)
    (h : decodeSectionsFrom limits acc (ss.flatMap Section.encoding) = .ok r) :
    r = acc ++ ss ∧ ((acc ++ ss).map (·.tag)).Nodup ∧ acc.length + ss.length ≤ limits.maxSections ∧
      ∀ s ∈ ss, s.body.length ≤ limits.maxSectionLen := by
  induction ss generalizing acc with
  | nil =>
    simp only [List.flatMap_nil, decodeSectionsFrom, Except.ok.injEq] at h
    simp [← h, hacc, hcount]
  | cons s ss ih =>
    rw [List.flatMap_cons, decodeSectionsFrom_encoding_append (h32 s (by simp))] at h
    -- each refusal the decoder can make is a branch of `h` that fails: the count bound, the
    -- length bound and a repeated kind
    split_ifs at h with hroom hlen hdup
    have hnd : ((acc ++ [s]).map (·.tag)).Nodup := by
      simp only [List.any_eq_true, beq_iff_eq, not_exists, not_and] at hdup
      simp only [List.map_append, List.map_cons, List.map_nil, List.nodup_append, hacc,
        List.nodup_cons, List.not_mem_nil, not_false_eq_true, List.nodup_nil, and_self,
        List.mem_map, List.mem_singleton, true_and]
      rintro _ ⟨x, hx, rfl⟩ _ rfl hxt
      exact hdup x hx hxt
    obtain ⟨rfl, hnd', hcount', hlens⟩ := ih (fun t ht => h32 t (by simp [ht])) hnd
      (by simp; omega) h
    exact ⟨by simp, by simpa using hnd', by simp at hcount' ⊢; omega,
      List.forall_mem_cons.mpr ⟨Nat.le_of_not_lt hlen, hlens⟩⟩

theorem decodeFrame_eq (bytes : Bytes) (limits : FrameLimits) :
    decodeFrame bytes limits =
      if bytes.length < headerSize then .error (.messageTooSmall bytes.length headerSize)
      else if limits.maxMessageBytes < bytes.length then
        .error (.limitExceeded .messageBytes limits.maxMessageBytes bytes.length)
      else if ofLE (bytes.take 4) != frameMagic then .error (.invalidMagic (ofLE (bytes.take 4)))
      else if (Header.parse bytes).version.toNat != frameVersion then
        .error (.unsupportedVersion (Header.parse bytes).version.toNat)
      else if !(Header.parse bytes).flags.isValid then
        .error (.invalidFlags (Header.parse bytes).flags.raw.toNat)
      else if !(Header.parse bytes).baselineOk then
        .error (.invalidBaselineTick (Header.parse bytes).tick.toNat
          (Header.parse bytes).baselineTick.toNat (Header.parse bytes).flags.raw.toNat)
      else if (Header.parse bytes).payloadLen.toNat != (bytes.drop headerSize).length then
        .error (.payloadLengthMismatch (Header.parse bytes).payloadLen.toNat
          (bytes.drop headerSize).length)
      else (decodeSections (bytes.drop headerSize) limits) >>= fun sections =>
        pure ⟨Header.parse bytes, sections⟩ := rfl

theorem decodeFrame_eq_ok {limits : FrameLimits} {bytes : Bytes} {f : Frame}
    (h : decodeFrame bytes limits = .ok f) :
    bytes.length ≤ limits.maxMessageBytes ∧ f.header = Header.parse bytes ∧
      f.header.version.toNat = frameVersion ∧ f.header.flags.isValid = true ∧
      f.header.baselineOk = true ∧ decodeSections (bytes.drop headerSize) limits = .ok f.sections := by
  rw [decodeFrame_eq] at h
  split_ifs at h with h₁ h₂ h₃ h₄ h₅ h₆ h₇
  obtain ⟨sections, hsec, h⟩ := Except.bind_eq_ok.mp h
  cases h
  exact ⟨Nat.le_of_not_lt h₂, rfl, by simpa using h₄, by simpa using h₅, by simpa using h₆, hsec⟩

/-- A written frame that is read back passed every check on the way: its header is consistent,
the whole message and each section keep within their bounds, and its sections are of distinct
kinds, no more than the count bound allows. It gives back the header with the payload length
the writer filled in, and the sections as written. -/
theorem decodeFrame_encoding_eq_ok {limits : FrameLimits} {h : Header} {ss : List Section}
    {f : Frame} (hp : payloadSize ss < 2 ^ (32 : Nat))
    (hdec : decodeFrame ({ h with payloadLen := UInt32.ofNat (payloadSize ss) }.encoding ++
      ss.flatMap Section.encoding) limits = .ok f) :
    (h.version.toNat = frameVersion ∧ h.flags.isValid = true ∧ h.baselineOk = true ∧
      (ss.map (·.tag)).Nodup ∧ ss.length ≤ limits.maxSections ∧
      (∀ s ∈ ss, s.body.length ≤ limits.maxSectionLen) ∧
      headerSize + payloadSize ss ≤ limits.maxMessageBytes) ∧
    f = ⟨{ h with payloadLen := UInt32.ofNat (payloadSize ss) }, ss⟩ := by
  obtain ⟨hmsg, hhdr, hver, hflags, hbase, hsec⟩ := decodeFrame_eq_ok hdec
  rw [Header.parse_encoding] at hhdr
  rw [List.drop_left' (Header.length_encoding _)] at hsec
  have hsec' : decodeSectionsFrom limits [] (ss.flatMap Section.encoding) = .ok f.sections := hsec
  obtain ⟨hss, hnd, hcount, hlens⟩ :=
    decodeSectionsFrom_encoding_eq_ok (body_length_lt_of_payloadSize hp) (by simp) (by simp) hsec'
  rw [hhdr] at hver hflags hbase
  rw [length_frame] at hmsg
  obtain ⟨header, sections⟩ := f
  simp only at hhdr hss
  subst hhdr hss
  exact ⟨⟨hver, hflags, hbase, by simpa using hnd, by simpa using hcount, hlens, hmsg⟩, rfl⟩

/-- Frame round trip: a written frame is read back as written exactly when its header, its
sections and its size pass the reader's checks. -/
theorem decodeFrame_written_iff {limits : FrameLimits} {h : Header} {ss : List Section}
    {out out' : Buffer} {n : Nat} (henc : (encodeFrame h ss).run out = .ok n out') :
    let m := out'.data.drop out.data.length
    ((∃ f, decodeFrame m limits = .ok f) ↔
      h.version.toNat = frameVersion ∧ h.flags.isValid = true ∧ h.baselineOk = true ∧
        (ss.map (·.tag)).Nodup ∧ ss.length ≤ limits.maxSections ∧
        (∀ s ∈ ss, s.body.length ≤ limits.maxSectionLen) ∧ m.length ≤ limits.maxMessageBytes) ∧
    ∀ f, decodeFrame m limits = .ok f →
      f = ⟨{ h with payloadLen := UInt32.ofNat (m.length - headerSize) }, ss⟩ ∧
        f.header.payloadLen.toNat = m.length - headerSize := by
  obtain ⟨hp, -, rfl⟩ := encodeFrame_run_eq_ok henc
  intro m
  have hm : m = { h with payloadLen := UInt32.ofNat (payloadSize ss) }.encoding ++
      ss.flatMap Section.encoding := by
    simp [m]
  have hpay : m.length - headerSize = payloadSize ss := by
    rw [hm, length_frame]
    omega
  rw [hpay, hm, length_frame]
  refine ⟨⟨fun ⟨f, hf⟩ => (decodeFrame_encoding_eq_ok hp hf).1, fun hc => ?_⟩, fun f hf => ?_⟩
  · obtain ⟨hver, hflags, hbase, hnd, hcount, hlens, hmsg⟩ := hc
    exact ⟨_, by rw [decodeFrame_encoding hver hflags hbase hp hmsg hlens hnd, if_pos hcount]⟩
  · obtain ⟨-, rfl⟩ := decodeFrame_encoding_eq_ok hp hf
    exact ⟨rfl, UInt32.toNat_ofNat_of_lt' hp⟩

/-- A delta frame's header: tick 10 against the baseline at tick 8. -/
def deltaHeader : Header := ⟨1, Flags.delta, 0xABCD, 10, 8, 0⟩

/-- The frame the writer makes of it with one entities section. -/
def deltaFrameBytes : Bytes :=
  [0x53, 0x4E, 0x50, 0x44, 1, 0, 2, 0, 0xCD, 0xAB, 0, 0, 0, 0, 0, 0, 10, 0, 0, 0, 8, 0, 0, 0,
    5, 0, 0, 0, 2, 3, 1, 2, 3]

theorem decodeFrame_written_iff_delta :
    (encodeFrame deltaHeader [⟨.entities, [1, 2, 3]⟩]).run (Buffer.empty 64) =
      .ok 33 ((Buffer.empty 64).appended deltaFrameBytes) ∧
    decodeFrame deltaFrameBytes FrameLimits.testing =
      .ok ⟨{ deltaHeader with payloadLen := 5 }, [⟨.entities, [1, 2, 3]⟩]⟩ := by
  have hrun : (encodeFrame deltaHeader [⟨.entities, [1, 2, 3]⟩]).run (Buffer.empty 64) =
      .ok 33 ((Buffer.empty 64).appended deltaFrameBytes) := by
    decide +kernel
  obtain ⟨hiff, hval⟩ := @decodeFrame_written_iff FrameLimits.testing _ _ _ _ _ hrun
  simp only [Buffer.empty, Buffer.appended_data, List.nil_append, List.length_nil,
    List.drop_zero] at hiff hval
  obtain ⟨f, hf⟩ := hiff.mpr (by decide)
  obtain ⟨rfl, -⟩ := hval f hf
  exact ⟨hrun, hf⟩

/-! ## Config strings -/

/-- The bytes of one config entry: its index, then its text and a NUL. -/
def ConfigEntry.encoding (e : ConfigEntry) : Bytes := encodeVarint e.1 ++ (encodeUtf8 e.2 ++ [0])

/-- What the writer checks of an entry: its index is below the table size, and its text keeps
within the length bound and holds no NUL. -/
def ConfigEntry.Writable (limits : FrameLimits) (e : ConfigEntry) : Prop :=
  e.1 < limits.maxConfigStrings ∧ (encodeUtf8 e.2).length ≤ limits.maxConfigStringLen ∧
    0 ∉ encodeUtf8 e.2

namespace Buffer

variable {b b' : Buffer} {bs : Bytes}

theorem write_eq_ok (h : b.write bs = .ok b') : b.Fits bs.length ∧ b' = b.appended bs := by
  by_cases hfit : b.Fits bs.length
  · rw [write_of_fits hfit, Except.ok.injEq] at h
    exact ⟨hfit, h.symm⟩
  · rw [write_of_not_fits hfit] at h
    cases h

theorem writeString_eq_ok {text : String} {maxLen : Nat} (h : b.writeString text maxLen = .ok b') :
    (encodeUtf8 text).length ≤ maxLen ∧ 0 ∉ encodeUtf8 text ∧
      b.Fits (encodeUtf8 text ++ [0]).length ∧ b' = b.appended (encodeUtf8 text ++ [0]) := by
  unfold Buffer.writeString at h
  rw [WriteM.writeString_run] at h
  split_ifs at h with hbad
  simp only [not_or, not_lt, List.contains_iff_mem] at hbad
  by_cases hfit : b.Fits (encodeUtf8 text ++ [0]).length
  · rw [WriteM.write_run_of_fits hfit] at h
    cases h
    exact ⟨hbad.1, hbad.2, hfit, rfl⟩
  · obtain ⟨e, he⟩ := WriteM.write_run_of_not_fits hfit
    rw [he] at h
    cases h

theorem Fits.appended_zero (h : b.Fits bs.length) : (b.appended bs).Fits 0 :=
  Fits.appended (by simpa using h)

end Buffer

/-- The config-string writer writes each entry's encoding after the count, and only entries it
checked; the buffer it writes into holds no more than its capacity afterwards. -/
theorem encodeConfigEntries_eq_ok {limits : FrameLimits} {L : List ConfigEntry} {out b : Buffer}
    (h : encodeConfigEntries limits L out = (b, .ok ())) :
    b = out.appended (L.flatMap ConfigEntry.encoding) ∧ (out.Fits 0 → b.Fits 0) ∧
      ∀ e ∈ L, e.Writable limits := by
  induction L generalizing out with
  | nil =>
    simp only [encodeConfigEntries, Prod.mk.injEq] at h
    obtain ⟨rfl, -⟩ := h
    simp
  | cons e L ih =>
    obtain ⟨index, text⟩ := e
    simp only [encodeConfigEntries] at h
    split at h
    · simp at h
    · next hindex =>
      split at h
      · simp at h
      · next out₁ h₁ =>
        split at h
        · simp at h
        · next out₂ h₂ =>
          obtain ⟨hb, hfits, hall⟩ := ih h
          obtain ⟨-, rfl⟩ := Buffer.write_eq_ok h₁
          obtain ⟨hlen, hnul, hfit₂, rfl⟩ := Buffer.writeString_eq_ok h₂
          refine ⟨by simp [hb, ConfigEntry.encoding], fun _ => hfits (Buffer.Fits.appended_zero hfit₂),
            ?_⟩
          intro e he
          rcases List.mem_cons.mp he with rfl | he
          · exact ⟨Nat.lt_of_not_le hindex, hlen, hnul⟩
          · exact hall e he

theorem encodeConfigStrings_eq_ok {limits : FrameLimits} {L : List ConfigEntry} {out b : Buffer}
    (h : encodeConfigStrings L limits out = (b, .ok ())) :
    L.length < 2 ^ (32 : Nat) ∧ b = out.appended (encodeVarint L.length ++ L.flatMap ConfigEntry.encoding) ∧
      b.Fits 0 ∧ ∀ e ∈ L, e.Writable limits := by
  unfold encodeConfigStrings at h
  split at h
  · simp at h
  · next h32 =>
    split at h
    · simp at h
    · next out₁ h₁ =>
      obtain ⟨hfit₁, rfl⟩ := Buffer.write_eq_ok h₁
      obtain ⟨rfl, hfits, hall⟩ := encodeConfigEntries_eq_ok h
      exact ⟨Nat.lt_of_not_le h32, by simp, hfits (Buffer.Fits.appended_zero hfit₁), hall⟩

/-- Entries written one after another, with checked indices below 2^32, are read back in order
when their bytes are fewer than a machine size. -/
theorem decodeConfigEntries_encoding {limits : FrameLimits} {L : List ConfigEntry} {c : Cursor}
    {rest : Bytes} (hc : c.rest = L.flatMap ConfigEntry.encoding ++ rest)
    (hL : ∀ e ∈ L, e.Writable limits ∧ e.1 < 2 ^ (32 : Nat))
    (hsize : (L.flatMap ConfigEntry.encoding).length < maxSize) :
    decodeConfigEntries limits L.length c =
      .ok (L, ⟨rest, c.pos + (L.flatMap ConfigEntry.encoding).length⟩) := by
  induction L generalizing c with
  | nil =>
    obtain ⟨crest, pos⟩ := c
    simp only [List.flatMap_nil, List.nil_append] at hc
    subst hc
    simp [decodeConfigEntries]
  | cons e L ih =>
    obtain ⟨index, text⟩ := e
    obtain ⟨⟨hidx, hlen, hnul⟩, h32⟩ := hL (index, text) (by simp)
    simp only [List.flatMap_cons, ConfigEntry.encoding, List.length_append, length_encodeVarint,
      List.length_cons, List.length_nil] at hc hsize ⊢
    have hread : c.readVarU32 = .ok (index, ⟨encodeUtf8 text ++ 0 ::
        (L.flatMap ConfigEntry.encoding ++ rest), c.pos + varintLen index⟩) :=
      Cursor.readVarU32_of_rest (by simp [hc]) h32
    have hstr := Cursor.readString_of_rest (c := ⟨encodeUtf8 text ++ 0 ::
        (L.flatMap ConfigEntry.encoding ++ rest), c.pos + varintLen index⟩) rfl hlen hnul (by omega)
    have htail := ih (c := ⟨L.flatMap ConfigEntry.encoding ++ rest,
        c.pos + varintLen index + (encodeUtf8 text).length + 1⟩) rfl
      (fun e he => hL e (List.mem_cons_of_mem _ he)) (by omega)
    simp only [decodeConfigEntries, hread, hstr, htail, Except.mapError, bind, Except.bind,
      Nat.not_le.mpr hidx, if_false, pure, Except.pure]
    simp only [Except.ok.injEq, Prod.mk.injEq, Cursor.mk.injEq, true_and]
    omega


/-- A written config-string table reads back as its entries when there are at most
`maxConfigStrings` of them; with more, the reader refuses it. -/
theorem decodeConfigStrings_encoding {limits : FrameLimits} {L : List ConfigEntry}
    (h32 : L.length < 2 ^ (32 : Nat)) (hL : ∀ e ∈ L, e.Writable limits ∧ e.1 < 2 ^ (32 : Nat))
    (hsize : (L.flatMap ConfigEntry.encoding).length < maxSize) :
    decodeConfigStrings (encodeVarint L.length ++ L.flatMap ConfigEntry.encoding) limits =
      if L.length ≤ limits.maxConfigStrings then .ok L
      else .error (.limitExceeded .configStringCount limits.maxConfigStrings L.length) := by
  have hcount : (Cursor.init (encodeVarint L.length ++ L.flatMap ConfigEntry.encoding)).readVarU32 =
      .ok (L.length, ⟨L.flatMap ConfigEntry.encoding, 0 + varintLen L.length⟩) :=
    Cursor.readVarU32_of_rest rfl h32
  have hentries := decodeConfigEntries_encoding (c := ⟨L.flatMap ConfigEntry.encoding ++ [],
    0 + varintLen L.length⟩) rfl hL hsize
  simp only [List.append_nil, Nat.zero_add] at hentries hcount
  unfold decodeConfigStrings
  by_cases hmax : L.length ≤ limits.maxConfigStrings
  · simp [hcount, hentries, hmax, Nat.not_lt.mpr hmax, Except.mapError, bind, Except.bind, pure,
      Except.pure]
  · simp [hcount, Nat.lt_of_not_le hmax, hmax, Except.mapError, bind, Except.bind, throw,
      throwThe, MonadExceptOf.throw]

end EntitySync
