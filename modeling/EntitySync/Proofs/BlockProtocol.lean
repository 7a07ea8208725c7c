import EntitySync.Proofs.FieldBlock
/-!
# The field-block protocol

A caller writes a field block by declaring each field's flag and then adding its payload bytes
(`Writer.addFields`), and reads it back by taking each flag and, when it is set, as many payload
bytes as the field had (`Reader.readFields`). Within the field and payload budgets the writer
keeps no failure and collects the flags and payloads in order (`Writer.addFields_of_room`), and
the reader hands every flag and payload back in order (`Reader.readFields_of_rest`).

A reader may stop after any number of fields: finishing then succeeds exactly when no later flag
is set, and a flag read past the last declared one is a failure. A block that declares more fields
than the reader allows is refused when it is opened.

`field_block_round_trip` puts these together for every field budget, payload budget and list of
fields within them.
-/

namespace EntitySync

namespace FieldBlock

/-- The writer's side of a block: each field's flag, then its payload bytes. -/
def Writer.addFields (w : Writer) (fields : List (Bool × Bytes)) : Writer :=
  fields.foldl (fun w f => (w.addBit f.1).addBytes f.2) w

/-- The reader's side of a block: each field's flag and, when it is set, as many payload bytes
as the field has. -/
def Reader.readFields : List (Bool × Bytes) → Reader → List (Bool × Bytes) × Reader
  | [], r => ([], r)
  | (_, bs) :: fs, r =>
    let (flag, r) := r.getBit
    let (got, r) := if flag then r.getBytes bs.length else ([], r)
    let (rest, r) := Reader.readFields fs r
    ((flag, got) :: rest, r)

/-- The payload bytes of the fields, in order. -/
def payloadOf (fields : List (Bool × Bytes)) : Bytes := fields.flatMap Prod.snd

@[simp] theorem payloadOf_nil : payloadOf [] = [] := rfl

@[simp] theorem payloadOf_cons (f : Bool × Bytes) (fs : List (Bool × Bytes)) :
    payloadOf (f :: fs) = f.2 ++ payloadOf fs := rfl

theorem payloadOf_take_append_drop (fields : List (Bool × Bytes)) (k : Nat) :
    payloadOf (fields.take k) ++ payloadOf (fields.drop k) = payloadOf fields := by
  simp only [payloadOf, ← List.flatMap_append, List.take_append_drop]

/-! ## Writing -/

namespace Writer

variable {w : Writer}

theorem addBit_of_room {x : Bool} (hw : w.error = none) (h : w.flags.length < w.maxFields) :
    w.addBit x = { w with flags := w.flags ++ [x] } := by
  simp [addBit, hw, Nat.not_le.mpr h]

theorem addBytes_of_room {bs : Bytes} (hw : w.error = none)
    (h : w.payload.length + bs.length ≤ w.maxPayload) :
    w.addBytes bs = { w with payload := w.payload ++ bs } := by
  have hfit : ¬ w.maxPayload < satAdd w.payload.length bs.length := by
    unfold satAdd
    omega
  simp [addBytes, hw, hfit]

/-- Within both budgets, adding fields keeps no failure and collects their flags and their
payloads, in order. -/
theorem addFields_of_room {fields : List (Bool × Bytes)} (hw : w.error = none)
    (hn : w.flags.length + fields.length ≤ w.maxFields)
    (hp : w.payload.length + (payloadOf fields).length ≤ w.maxPayload) :
    w.addFields fields =
      { w with flags := w.flags ++ fields.map Prod.fst, payload := w.payload ++ payloadOf fields } := by
  -- on the fields; each one takes a flag and its payload within what is left of the budgets
  induction fields generalizing w with
  | nil => simp [addFields]
  | cons f fs ih =>
    obtain ⟨x, bs⟩ := f
    simp only [List.length_cons, payloadOf_cons, List.length_append] at hn hp
    have hstep : (w.addBit x).addBytes bs =
        { w with flags := w.flags ++ [x], payload := w.payload ++ bs } := by
      rw [addBit_of_room hw (by omega), addBytes_of_room (w := { w with flags := w.flags ++ [x] }) hw
        (by simp; omega)]
    have hw' : ({ w with flags := w.flags ++ [x], payload := w.payload ++ bs } : Writer).error = none := hw
    show ((w.addBit x).addBytes bs).addFields fs = _
    rw [hstep, ih hw' (by simp; omega) (by simp; omega)]
    simp

end Writer

/-! ## Reading -/

namespace Reader

variable {r : Reader}

/-- The reader takes back the flags and payloads of the fields ahead of it, in order, when the
payload of each field with a clear flag is empty. -/
theorem readFields_of_rest {fields : List (Bool × Bytes)} {more : List Bool} {rest : Bytes}
    (hclear : ∀ f ∈ fields, f.1 = false → f.2 = []) (hr : r.error = none)
    (hflags : r.flags.drop r.consumed = fields.map Prod.fst ++ more)
    (hc : r.cursor.rest = payloadOf fields ++ rest) :
    readFields fields r = (fields, { r with
      cursor := ⟨rest, r.cursor.pos + (payloadOf fields).length⟩
      consumed := r.consumed + fields.length }) := by
  -- on the fields; each one consumes its flag and, when the flag is set, its payload
  induction fields generalizing r with
  | nil =>
    obtain ⟨⟨rest', pos⟩, flags, consumed, error⟩ := r
    simp only [payloadOf_nil, List.nil_append] at hc
    subst hc
    simp [readFields]
  | cons f fs ih =>
    obtain ⟨x, bs⟩ := f
    have hbit := getBit_of_drop hr (show r.flags.drop r.consumed = x :: (fs.map Prod.fst ++ more) from hflags)
    have hflags' : r.flags.drop (r.consumed + 1) = fs.map Prod.fst ++ more := by
      simp [← List.drop_drop, hflags]
    have hclear' : ∀ f ∈ fs, f.1 = false → f.2 = [] := fun f hf => hclear f (List.mem_cons_of_mem _ hf)
    cases x with
    | false =>
      obtain rfl : bs = [] := hclear _ List.mem_cons_self rfl
      have hrest := ih (r := { r with consumed := r.consumed + 1 }) hclear' hr hflags' (by simpa using hc)
      simp only [readFields, hbit, Bool.false_eq_true, if_false, hrest]
      simp [Nat.add_assoc, Nat.add_comm 1]
    | true =>
      have hbytes := getBytes_of_rest (r := { r with consumed := r.consumed + 1 }) hr
        (show r.cursor.rest = bs ++ (payloadOf fs ++ rest) by simp [hc]) rfl
      have hrest := ih (r := { r with
          cursor := ⟨payloadOf fs ++ rest, r.cursor.pos + bs.length⟩
          consumed := r.consumed + 1 }) hclear' hr hflags' rfl
      simp only [readFields, hbit, if_true, hbytes, hrest]
      simp [Nat.add_assoc, Nat.add_comm 1]

theorem finish_of_error_eq_none (hr : r.error = none) :
    r.finish = if (r.flags.drop r.consumed).any id then .error (.unreadFields r.declared r.consumed)
      else .ok () := by
  simp [finish, hr]

theorem getBit_of_drop_nil (hr : r.error = none) (h : r.flags.drop r.consumed = []) :
    r.getBit = (false, r.setError (.fieldsExhausted r.declared)) := by
  have hnone : r.flags[r.consumed]? = none :=
    List.getElem?_eq_none (List.drop_eq_nil_iff.mp h)
  simp [getBit, hr, hnone]

theorem begin_of_count_exceeded {c : Cursor} {n maxFields : Nat} {rest : Bytes}
    (hc : c.rest = encodeVarint n ++ rest) (hn : n < 2 ^ (32 : Nat)) (hlim : min maxFields maxBlockFields < n) :
    (begin c maxFields).error = some (.fieldCountExceeded n (min maxFields maxBlockFields)) := by
  simp [begin, Cursor.readVarU32_of_rest hc hn, hlim]

end Reader

end FieldBlock

open FieldBlock FieldBlock.Reader

/-- Field blocks read back as they were written, flag by flag and payload by payload; a reader
that allows fewer fields refuses the block. -/
theorem field_block_round_trip {maxFields maxPayload : Nat} {fields : List (Bool × Bytes)}
    (hn : fields.length ≤ min maxFields maxBlockFields)
    (hclear : ∀ f ∈ fields, f.1 = false → f.2 = [])
    (hp : (payloadOf fields).length ≤ maxPayload) :
    let w := ((Writer.new maxPayload).withMaxFields maxFields).addFields fields
    w.error = none ∧
      w.encodedLen = varintLen fields.length + maskLen fields.length + (payloadOf fields).length ∧
      w.encoding = encodeVarint fields.length ++ packFlags (fields.map Prod.fst) ++ payloadOf fields ∧
      (∀ out : Buffer, out.Fits w.encodedLen →
        w.finishInto.run out = .ok w.encodedLen (out.appended w.encoding)) ∧
      ∀ (c : Cursor) (rest : Bytes) (limit : Nat), c.rest = w.encoding ++ rest →
        (fields.length ≤ limit →
          (begin c limit).declared = fields.length ∧
          (∀ k ≤ fields.length, (readFields (fields.take k) (begin c limit)).1 = fields.take k ∧
            (readFields (fields.take k) (begin c limit)).2.finish =
              if (fields.drop k).any Prod.fst then .error (.unreadFields fields.length k)
              else .ok ()) ∧
          (readFields fields (begin c limit)).2.cursor.rest = rest ∧
          (readFields fields (begin c limit)).2.getBit.1 = false ∧
          (readFields fields (begin c limit)).2.getBit.2.error =
            some (.fieldsExhausted fields.length)) ∧
        (limit < fields.length →
          (begin c limit).error = some (.fieldCountExceeded fields.length limit)) := by
  intro w
  have hw : w = { (Writer.new maxPayload).withMaxFields maxFields with
      flags := fields.map Prod.fst, payload := payloadOf fields } := by
    show ((Writer.new maxPayload).withMaxFields maxFields).addFields fields = _
    rw [Writer.addFields_of_room (w := (Writer.new maxPayload).withMaxFields maxFields) rfl
      (by simp only [Writer.new, Writer.withMaxFields, List.length_nil]; omega)
      (by simpa [Writer.new, Writer.withMaxFields] using hp)]
    simp [Writer.new, Writer.withMaxFields]
  have herr : w.error = none := by rw [hw]; rfl
  have hflags : w.flags = fields.map Prod.fst := by rw [hw]
  have hpay : w.payload = payloadOf fields := by rw [hw]
  have hlen : w.flags.length = fields.length := by simp [hflags]
  have henc : w.encoding =
      encodeVarint fields.length ++ packFlags (fields.map Prod.fst) ++ payloadOf fields := by
    simp [Writer.encoding, hflags, hpay]
  refine ⟨herr, by simp [Writer.encodedLen, hlen, hpay], henc,
    fun out hfit => Writer.finishInto_writes herr out (by rwa [Writer.length_encoding]),
    fun c rest limit hc => ⟨fun hlimit => ?_, fun hlimit => ?_⟩⟩
  · have hbegin := begin_encoding hc (show w.flags.length ≤ min limit maxBlockFields by omega)
    -- after the first `k` fields, the reader stands at the payloads of the others
    have hread : ∀ k ≤ fields.length, readFields (fields.take k) (begin c limit) =
        (fields.take k, ⟨⟨payloadOf (fields.drop k) ++ rest, c.pos + varintLen fields.length +
          maskLen fields.length + (payloadOf (fields.take k)).length⟩, fields.map Prod.fst, k, none⟩) := by
      intro k hk
      have hfl : (begin c limit).flags.drop (begin c limit).consumed =
          (fields.take k).map Prod.fst ++ (fields.drop k).map Prod.fst := by
        simp [hbegin, hflags]
      have hcur : (begin c limit).cursor.rest =
          payloadOf (fields.take k) ++ (payloadOf (fields.drop k) ++ rest) := by
        rw [← List.append_assoc, payloadOf_take_append_drop, hbegin, hpay]
      rw [readFields_of_rest (fun f hf => hclear f (List.mem_of_mem_take hf)) (by rw [hbegin]) hfl hcur]
      simp [hbegin, hflags, Nat.min_eq_left hk]
    have hlast := hread fields.length le_rfl
    rw [List.take_length] at hlast
    refine ⟨by simp [declared, hbegin, hlen], fun k hk => ⟨by rw [hread k hk], ?_⟩, ?_⟩
    · rw [hread k hk, finish_of_error_eq_none rfl]
      simp only [declared, List.length_map]
      rw [← List.map_drop, List.any_map]
      rfl
    · rw [hlast, getBit_of_drop_nil rfl (by simp)]
      simp [setError, declared]
  · have hc' : c.rest = encodeVarint fields.length ++ (packFlags (fields.map Prod.fst) ++
        payloadOf fields ++ rest) := by
      simp [hc, henc]
    have hmin : min limit maxBlockFields = limit := by omega
    have hex : (begin c limit).error =
        some (.fieldCountExceeded fields.length (min limit maxBlockFields)) :=
      begin_of_count_exceeded hc' (by simp [maxBlockFields] at hn; omega) (by omega)
    rwa [hmin] at hex

/-- Three fields, the first and the last set: the block is the count, the mask `0b101` and the
two payloads, and a reader that stops after the first field is refused, the last flag being set. -/
theorem field_block_round_trip_three :
    (((Writer.new 3).withMaxFields 8).addFields [(true, [7]), (false, []), (true, [1, 2])]).encoding =
        [3, 5, 7, 1, 2] ∧
      ∀ (c : Cursor) (rest : Bytes), c.rest = [3, 5, 7, 1, 2] ++ rest →
        (readFields [(true, [7])] (begin c 8)).1 = [(true, [7])] ∧
          (readFields [(true, [7])] (begin c 8)).2.finish = .error (.unreadFields 3 1) := by
  have h := @field_block_round_trip 8 3 [(true, [7]), (false, []), (true, [1, 2])]
    (by decide) (by decide) (by decide)
  have henc : (((Writer.new 3).withMaxFields 8).addFields
      [(true, [7]), (false, []), (true, [1, 2])]).encoding = [3, 5, 7, 1, 2] := by
    rw [h.2.2.1]
    decide +kernel
  refine ⟨henc, fun c rest hc => ?_⟩
  have hreader := (h.2.2.2.2 c rest 8 (by rw [henc]; exact hc)).1 (by decide)
  have hfirst := hreader.2.1 1 (by decide)
  exact ⟨hfirst.1, hfirst.2.trans (if_pos (by decide))⟩

end EntitySync
