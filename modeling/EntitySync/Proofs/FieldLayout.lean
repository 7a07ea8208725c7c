import EntitySync.Proofs.Body
/-!
# Field blocks as they are laid out

The field block the writer produces for a well-typed state, byte for byte: the leaf count as a
varint, the mask of change flags packed eight to a byte with the first flag in the lowest bit
and the padding bits clear, and the wire bytes of the changed leaves in leaf order. A flag is
set where a leaf's wire bytes differ from those of the base state (the baseline, or the zero
state when there is none), and the count the writer returns is the number of set flags.

A schema that validates has fewer leaves than a block can declare and a positive bound for every
enumeration, and a well-typed value never takes more bytes than its kind allows. So composing a
block never fails: `encodeFields_appends_fieldBlock` says the block is appended whenever the
output has room for it, and that otherwise the output is left as it was.
-/

namespace EntitySync

open FieldBlock WriteM

variable {schema : Schema}

/-- A state fits a schema: one value per leaf, each fitting its leaf's kind. -/
def EntityState.WellTyped (schema : Schema) (s : EntityState) : Prop :=
  s.values.length = schema.len ∧ ∀ p ∈ schema.fields.zip s.values, p.2.check p.1.kind = .ok ()

instance (schema : Schema) (s : EntityState) : Decidable (s.WellTyped schema) :=
  inferInstanceAs (Decidable (_ ∧ ∀ p ∈ _, _))

/-- The field block of `cur` against the base state `base`: the leaf count, the packed change
flags and the wire bytes of the changed leaves. -/
def fieldBlock (schema : Schema) (base cur : EntityState) : Bytes :=
  encodeVarint schema.len ++ packFlags (changeFlags schema.fields base.values cur.values) ++
    changedBytes schema.fields base.values cur.values

/-! ## Masks -/

theorem byteFlags_flagByte {fs : List Bool} (h : fs.length ≤ 8) :
    byteFlags (UInt8.ofNat (flagByte fs)) = fs ++ List.replicate (8 - fs.length) false := by
  have hlt : flagByte fs < 256 :=
    Nat.lt_of_lt_of_le (flagByte_lt fs) (Nat.pow_le_pow_right (by decide) h)
  apply List.ext_getElem
  · simp [byteFlags]
    omega
  · intro i h1 h2
    simp only [byteFlags, List.getElem_map, List.getElem_range, UInt8.toNat_ofNat',
      Nat.mod_eq_of_lt hlt, testBit_flagByte, List.getElem_append]
    split <;> simp_all

/-- The bits of a packed mask, byte after byte and lowest bit first, are the flags and then
clear padding up to a whole byte. -/
theorem unpackMask_packFlags (fl : List Bool) :
    unpackMask (packFlags fl) = fl ++ List.replicate (8 * maskLen fl.length - fl.length) false := by
  fun_induction packFlags fl with
  | case1 fl h =>
    simp only [List.isEmpty_iff] at h
    subst h
    rfl
  | case2 fl h ih =>
    have hpos : 0 < fl.length := List.length_pos_iff.mpr (by simpa using h)
    rw [unpackMask, List.flatMap_cons, ← unpackMask, ih,
      byteFlags_flagByte (by simp), List.length_drop, List.length_take]
    by_cases h8 : 8 ≤ fl.length
    · -- a whole byte of flags: no padding in it
      rw [Nat.min_eq_left h8, Nat.sub_self, List.replicate_zero, List.append_nil, ← List.append_assoc,
        List.take_append_drop]
      congr 2
      simp only [maskLen]
      omega
    · -- the last byte: its flags, then the padding
      rw [Nat.min_eq_right (by omega), List.drop_eq_nil_of_le (by omega),
        List.take_of_length_le (by omega)]
      simp [maskLen, show (fl.length + 7) / 8 = 1 by omega, show (fl.length - 8 + 7) / 8 = 0 by omega]

example : unpackMask (packFlags [true, false, true]) =
    [true, false, true, false, false, false, false, false] := by
  decide +kernel

/-! ## Validated schemas and well-typed states -/

theorem Schema.checkFrom_eq_ok {seen : List String} {i : Nat} {fs : List Field}
    (h : Schema.checkFrom seen i fs = .ok ()) : ∀ f ∈ fs, Schema.checkField f = .ok () := by
  induction fs generalizing seen i with
  | nil => simp
  | cons f fs ih =>
    unfold Schema.checkFrom at h
    split at h
    · cases h
    split at h
    · cases h
    split at h
    · cases h
    next hf =>
    intro g hg
    rcases List.mem_cons.mp hg with rfl | hg
    · exact hf
    · exact ih h g hg

theorem Schema.validate_eq_ok (h : schema.validate = .ok ()) :
    schema.len ≤ maxSchemaFields ∧ ∀ f ∈ schema.fields, Schema.checkField f = .ok () := by
  unfold Schema.validate at h
  split at h
  · cases h
  next hlen => exact ⟨Nat.le_of_not_lt hlen, Schema.checkFrom_eq_ok h⟩

theorem FieldValue.check_zero {f : Field} (h : Schema.checkField f = .ok ()) :
    (FieldValue.zero f.kind).check f.kind = .ok () := by
  unfold Schema.checkField at h
  split at h
  · cases h
  · cases h
  next hne hne' =>
    cases hk : f.kind with
    | enum variants =>
      have : variants ≠ 0 := fun h0 => hne (hk.trans (by rw [h0]))
      simp [FieldValue.zero, FieldValue.check]
      omega
    | str maxLen => simp [FieldValue.zero, FieldValue.check, encodeUtf8]
    | float c => rfl
    | _ => rfl

theorem zip_map_zero_check {fs : List Field} (h : ∀ f ∈ fs, Schema.checkField f = .ok ()) :
    ∀ p ∈ fs.zip (fs.map (FieldValue.zero ·.kind)), p.2.check p.1.kind = .ok () := by
  induction fs with
  | nil => simp
  | cons f fs ih =>
    intro p hp
    simp only [List.map_cons, List.zip_cons_cons, List.mem_cons] at hp
    rcases hp with rfl | hp
    · exact FieldValue.check_zero (h f (by simp))
    · exact ih (fun g hg => h g (List.mem_cons_of_mem _ hg)) p hp

theorem EntityState.wellTyped_zeroed (h : schema.validate = .ok ()) :
    (EntityState.zeroed schema).WellTyped schema :=
  ⟨by simp [EntityState.zeroed, Schema.len], zip_map_zero_check (Schema.validate_eq_ok h).2⟩

theorem leavesFit_of_forall {fs : List Field} {bs vs : List FieldValue}
    (hb : ∀ p ∈ fs.zip bs, p.2.check p.1.kind = .ok ())
    (hv : ∀ p ∈ fs.zip vs, p.2.check p.1.kind = .ok ()) : LeavesFit fs bs vs := by
  induction fs generalizing bs vs with
  | nil => trivial
  | cons f fs ih =>
    cases bs with
    | nil => cases vs <;> trivial
    | cons b bs =>
      cases vs with
      | nil => trivial
      | cons v vs =>
        exact ⟨hb (f, b) (by simp), hv (f, v) (by simp),
          ih (fun p hp => hb p (List.mem_cons_of_mem _ hp)) (fun p hp => hv p (List.mem_cons_of_mem _ hp))⟩

theorem FieldValue.length_bytesAs_le {v : FieldValue} {k : FieldKind} (h : v.check k = .ok ()) :
    (v.bytesAs k).length ≤ k.maxWireSize := by
  cases k <;> cases v <;> simp only [FieldValue.check, reduceCtorEq] at h <;>
    simp [FieldValue.bytesAs, FieldKind.maxWireSize, FieldKind.wireSize, FloatCodec.wireSize]
  case str.str maxLen s =>
    by_contra hlong
    simp [show maxLen < (encodeUtf8 s).length by omega] at h

/-! ## Composing never fails on well-typed states -/

namespace FieldBlock.Writer

variable {w : Writer}

theorem addBit_of_lt {x : Bool} (hw : w.error = none) (h : w.flags.length < w.maxFields) :
    w.addBit x = { w with flags := w.flags ++ [x] } := by
  simp [addBit, hw, Nat.not_le.mpr h]

theorem addBytes_of_le {bytes : Bytes} (hw : w.error = none)
    (h : w.payload.length + bytes.length ≤ w.maxPayload) :
    w.addBytes bytes = { w with payload := w.payload ++ bytes } := by
  have hsat : ¬ w.maxPayload < satAdd w.payload.length bytes.length := by
    simp only [satAdd]
    omega
  simp [addBytes, hw, hsat]

end FieldBlock.Writer

/-- Composing well-typed leaves into a writer with room for all of them adds their change flags
and changed bytes and counts the set flags. The writer's room is the invariant: its field budget
covers the leaves left and its payload budget their largest sizes. -/
theorem composeFrom_eq_ok {i c : Nat} {fs : List Field} {bs vs : List FieldValue} {w : Writer}
    (hfit : LeavesFit fs bs vs) (hb : bs.length = fs.length) (hv : vs.length = fs.length)
    (hw : w.error = none) (hfields : w.flags.length + fs.length ≤ w.maxFields)
    (hpay : w.payload.length + (fs.map (·.kind.maxWireSize)).sum ≤ w.maxPayload) :
    composeFrom i fs bs vs w c =
      .ok ({ w with
          flags := w.flags ++ changeFlags fs bs vs
          payload := w.payload ++ changedBytes fs bs vs },
        c + (changeFlags fs bs vs).count true) := by
  induction fs generalizing i c bs vs w with
  | nil =>
    obtain rfl := List.eq_nil_of_length_eq_zero hb
    obtain rfl := List.eq_nil_of_length_eq_zero hv
    simp [composeFrom, changeFlags, changedBytes]
  | cons f fs ih =>
    obtain ⟨b, bs, rfl⟩ := List.exists_cons_of_length_eq_add_one hb
    obtain ⟨v, vs, rfl⟩ := List.exists_cons_of_length_eq_add_one hv
    obtain ⟨hbfit, hvfit, hfit⟩ := hfit
    have hcur : (v.wireBytes f.kind).mapError (CodecError.invalidValue i) = .ok (v.bytesAs f.kind) :=
      Except.mapError_eq_ok.mpr (FieldValue.wireBytes_eq_ok.mpr ⟨hvfit, rfl⟩)
    have hbase : (b.wireBytes f.kind).mapError (CodecError.invalidValue i) = .ok (b.bytesAs f.kind) :=
      Except.mapError_eq_ok.mpr (FieldValue.wireBytes_eq_ok.mpr ⟨hbfit, rfl⟩)
    have hlen := FieldValue.length_bytesAs_le hvfit
    simp only [List.map_cons, List.sum_cons, List.length_cons] at hfields hpay
    have hbit : ∀ x : Bool, w.addBit x = { w with flags := w.flags ++ [x] } :=
      fun x => Writer.addBit_of_lt hw (by omega)
    simp only [composeFrom, hcur, hbase, bind, Except.bind]
    by_cases heq : v.bytesAs f.kind = b.bytesAs f.kind
    · -- an unchanged leaf: a clear flag and no bytes
      rw [if_pos (by simpa using heq), hbit, ih (w := { w with flags := w.flags ++ [false] }) hfit
        (Nat.succ.inj hb) (Nat.succ.inj hv) hw (by simp; omega) (by simp; omega)]
      simp [changeFlags, changedBytes, heq]
    · -- a changed leaf: a set flag and its bytes, within the payload budget
      have hbytes : ({ w with flags := w.flags ++ [true] } : Writer).addBytes (v.bytesAs f.kind) =
          { w with flags := w.flags ++ [true], payload := w.payload ++ v.bytesAs f.kind } :=
        Writer.addBytes_of_le hw (by simp; omega)
      have hflag : (v.bytesAs f.kind != b.bytesAs f.kind) = true := bne_iff_ne.mpr heq
      rw [if_neg (by simpa using heq), hbit, hbytes,
        ih (w := { w with flags := w.flags ++ [true], payload := w.payload ++ v.bytesAs f.kind }) hfit
          (Nat.succ.inj hb) (Nat.succ.inj hv) hw (by simp; omega) (by simp; omega)]
      simp [changeFlags, changedBytes, heq, hflag, Nat.add_assoc, Nat.add_comm 1]

theorem baseState_eq_ok {baseline : Option EntityState}
    (hbase : ∀ b, baseline = some b → b.WellTyped schema) :
    baseState schema baseline = .ok (baseline.getD (EntityState.zeroed schema)) := by
  cases baseline with
  | none => rfl
  | some b =>
    have hlen := (hbase b rfl).1
    simp [baseState, checkLen_eq_ok.mpr hlen, bind, Except.bind, pure, Except.pure]

theorem EntityState.wellTyped_getD {baseline : Option EntityState} (hvalid : schema.validate = .ok ())
    (hbase : ∀ b, baseline = some b → b.WellTyped schema) :
    (baseline.getD (EntityState.zeroed schema)).WellTyped schema := by
  cases baseline with
  | none => exact EntityState.wellTyped_zeroed hvalid
  | some b => exact hbase b rfl

/-- The writer a block ends in once every leaf of `cur` is added against `base`. -/
def composedWriter (schema : Schema) (base cur : EntityState) : Writer :=
  ⟨changeFlags schema.fields base.values cur.values, min schema.len maxBlockFields,
    changedBytes schema.fields base.values cur.values, schema.maxPayloadLen, none⟩

@[simp] theorem composedWriter_error (base cur : EntityState) :
    (composedWriter schema base cur).error = none := rfl

theorem composedWriter_encoding {base cur : EntityState} (hb : base.values.length = schema.len)
    (hc : cur.values.length = schema.len) :
    (composedWriter schema base cur).encoding = fieldBlock schema base cur := by
  simp [composedWriter, Writer.encoding, fieldBlock, length_changeFlags hb hc, Schema.len]

/-- Composing well-typed leaves into the writer a block starts with, whose budgets are one flag
per leaf and the schema's largest payload, adds the change flags and the changed bytes. -/
theorem composeFrom_fresh_eq_ok {base cur : EntityState} (hvalid : schema.validate = .ok ())
    (hbase : base.WellTyped schema) (hcur : cur.WellTyped schema) :
    composeFrom 0 schema.fields base.values cur.values
        ((Writer.new schema.maxPayloadLen).withMaxFields schema.len) 0 =
      .ok (composedWriter schema base cur,
        (changeFlags schema.fields base.values cur.values).count true) := by
  have hlen : schema.len ≤ maxSchemaFields := (Schema.validate_eq_ok hvalid).1
  have hrun := composeFrom_eq_ok (i := 0) (c := 0)
    (w := (Writer.new schema.maxPayloadLen).withMaxFields schema.len)
    (leavesFit_of_forall hbase.2 hcur.2) hbase.1 hcur.1 rfl
    (by simp [Writer.new, Writer.withMaxFields, maxSchemaFields, maxBlockFields, Schema.len] at hlen ⊢
        omega)
    (by simp [Writer.new, Writer.withMaxFields, Schema.maxPayloadLen])
  simpa [Writer.new, Writer.withMaxFields, composedWriter] using hrun

/-- On well-typed states of a validated schema, composing succeeds with the change flags against
the base state and the changed bytes, and the count of set flags. -/
theorem composeFields_eq_ok_of_wellTyped {baseline : Option EntityState} {current : EntityState}
    (hvalid : schema.validate = .ok ()) (hbase : ∀ b, baseline = some b → b.WellTyped schema)
    (hcur : current.WellTyped schema) :
    composeFields schema baseline current =
      .ok (composedWriter schema (baseline.getD (EntityState.zeroed schema)) current,
        (changeFlags schema.fields (baseline.getD (EntityState.zeroed schema)).values
          current.values).count true) := by
  have hbwt := EntityState.wellTyped_getD hvalid hbase
  simp only [composeFields, checkLen_eq_ok.mpr hcur.1, baseState_eq_ok hbase,
    composeFrom_fresh_eq_ok hvalid hbwt hcur, composedWriter_error, bind, Except.bind, pure,
    Except.pure]

/-! ## The block written -/

instance (b : Buffer) (n : Nat) : Decidable (b.Fits n) := inferInstanceAs (Decidable (_ ≤ _))

theorem ensureFree_run_of_not_fits_eq {b : Buffer} {n : Nat} (h : ¬ b.Fits n) :
    (ensureFree n).run b = .error (.bufferOverflow (satAdd b.data.length n) b.capacity) b := by
  have h' : b.capacity < satAdd b.data.length n := Nat.lt_of_not_le h
  simp [ensureFree, EStateM.run, Buffer.ensureFree, h']

/-- Field-block layout: the writer appends the leaf count, the packed change flags and the
changed leaves' bytes, or fails leaving its output as it was. -/
theorem encodeFields_appends_fieldBlock {baseline : Option EntityState} {current : EntityState}
    (hvalid : schema.validate = .ok ()) (hbase : ∀ b, baseline = some b → b.WellTyped schema)
    (hcur : current.WellTyped schema) (out : Buffer) :
    let base := baseline.getD (EntityState.zeroed schema)
    let flags := changeFlags schema.fields base.values current.values
    flags.length = schema.len ∧
      (packFlags flags).length = maskLen schema.len ∧
      unpackMask (packFlags flags) = flags ++ List.replicate (8 * maskLen schema.len - schema.len) false ∧
      (encodeFields schema baseline current).run out =
        if out.Fits (fieldBlock schema base current).length then
          .ok (flags.count true) (out.appended (fieldBlock schema base current))
        else .error (.stream (.bufferOverflow
          (satAdd out.data.length (fieldBlock schema base current).length) out.capacity)) out := by
  intro base flags
  have hbwt : base.WellTyped schema := EntityState.wellTyped_getD hvalid hbase
  have hflen : flags.length = schema.len := length_changeFlags hbwt.1 hcur.1
  let w := composedWriter schema base current
  have hw : w.encoding = fieldBlock schema base current := composedWriter_encoding hbwt.1 hcur.1
  refine ⟨hflen, by rw [length_packFlags, hflen], by rw [unpackMask_packFlags, hflen], ?_⟩
  simp only [encodeFields, composeFields_eq_ok_of_wellTyped hvalid hbase hcur]
  rw [run_bind_ok (run_liftExcept_ok out)]
  split
  · next hfit =>
    rw [run_bind_ok (run_adaptExcept_ok (Writer.finishInto_writes (w := w) rfl out
      (by rw [← hw] at hfit; exact hfit)) _), hw]
    rfl
  · next hfit =>
    have hfit' : ¬ out.Fits w.encodedLen := by rwa [← Writer.length_encoding, hw]
    have herr : w.finishInto.run out = .error (.bufferOverflow (satAdd out.data.length
        (fieldBlock schema base current).length) out.capacity) out := by
      simp only [Writer.finishInto, w, composedWriter_error]
      rw [run_bind_error (ensureFree_run_of_not_fits_eq hfit'), ← Writer.length_encoding, hw]
    rw [run_bind_error (run_adaptExcept_error herr _)]

/-- A unit that lost hit points and turned, written against its baseline: the count, the mask
with the first two flags set, then the new hit points and the half-precision heading. -/
theorem encodeFields_appends_fieldBlock_units :
    unitSchema.validate = .ok () ∧
      (⟨[.u16 100, .f32 Binary32.zero, .str "ann"]⟩ : EntityState).WellTyped unitSchema ∧
      (⟨[.u16 90, .f32 ⟨0x3fc00000⟩, .str "ann"]⟩ : EntityState).WellTyped unitSchema ∧
      (encodeFields unitSchema (some ⟨[.u16 100, .f32 Binary32.zero, .str "ann"]⟩)
          ⟨[.u16 90, .f32 ⟨0x3fc00000⟩, .str "ann"]⟩).run (Buffer.empty 16) =
        .ok 2 ((Buffer.empty 16).appended [3, 3, 90, 0, 0, 62]) := by
  have hvalid : unitSchema.validate = .ok () := by decide
  have hb : (⟨[.u16 100, .f32 Binary32.zero, .str "ann"]⟩ : EntityState).WellTyped unitSchema := by
    decide
  have hc : (⟨[.u16 90, .f32 ⟨0x3fc00000⟩, .str "ann"]⟩ : EntityState).WellTyped unitSchema := by
    decide
  obtain ⟨-, -, -, hrun⟩ := encodeFields_appends_fieldBlock hvalid
    (fun b hb' => Option.some.inj hb' ▸ hb) hc (Buffer.empty 16)
  refine ⟨hvalid, hb, hc, ?_⟩
  rw [hrun]
  decide +kernel

end EntitySync
