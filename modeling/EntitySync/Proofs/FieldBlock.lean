import EntitySync.Proofs.Codes
/-!
# Field blocks read back

A field block carries an entity state against a base state: one flag per leaf, set where the
leaf's wire bytes differ from the base value's, and the bytes of the flagged leaves. Read on top
of the base state's quantized form, the block gives back the state's quantized form, provided
both states are settled, that is, quantizing their floats a second time changes nothing.

The writer's side is `composeFrom_ok`: a block composed without failure holds `changeFlags` and
`changedBytes`, and every value on both sides fits its leaf. The reader's side is
`readFlagged_changes`, and `decodeFields_encoding` puts the two together.
-/

namespace EntitySync

open FieldBlock

/-! ## What a block holds -/

/-- The flags of a block of `vs` against `bs`: set where a value's wire bytes differ from its
base value's. -/
def changeFlags : List Field → List FieldValue → List FieldValue → List Bool
  | f :: fs, b :: bs, v :: vs => (v.bytesAs f.kind != b.bytesAs f.kind) :: changeFlags fs bs vs
  | _, _, _ => []

/-- The payload of a block of `vs` against `bs`: the wire bytes of the changed values, in
order. -/
def changedBytes : List Field → List FieldValue → List FieldValue → Bytes
  | f :: fs, b :: bs, v :: vs =>
    (if v.bytesAs f.kind = b.bytesAs f.kind then [] else v.bytesAs f.kind) ++ changedBytes fs bs vs
  | _, _, _ => []

/-- Every value and every base value fits its leaf. -/
def LeavesFit : List Field → List FieldValue → List FieldValue → Prop
  | f :: fs, b :: bs, v :: vs =>
    b.check f.kind = .ok () ∧ v.check f.kind = .ok () ∧ LeavesFit fs bs vs
  | _, _, _ => True

theorem FieldValue.wireBytes_eq_ok {v : FieldValue} {k : FieldKind} {bytes : Bytes} :
    v.wireBytes k = .ok bytes ↔ v.check k = .ok () ∧ v.bytesAs k = bytes := by
  unfold FieldValue.wireBytes
  cases h : v.check k <;> simp [bind, Except.bind, pure, Except.pure]

/-! ## Settled values and bounded schemas -/

/-- A value is settled at a kind when quantizing it a second time changes nothing. -/
def FieldValue.Settled (k : FieldKind) (v : FieldValue) : Prop :=
  (v.quantize k).quantize k = v.quantize k

instance (k : FieldKind) (v : FieldValue) : Decidable (v.Settled k) :=
  inferInstanceAs (Decidable (_ = _))

/-- A state is settled when each of its values is settled at its leaf's kind. -/
def EntityState.Settled (schema : Schema) (s : EntityState) : Prop :=
  ∀ p ∈ schema.fields.zip s.values, p.2.Settled p.1.kind

instance (schema : Schema) (s : EntityState) : Decidable (s.Settled schema) :=
  inferInstanceAs (Decidable (∀ p ∈ _, _))

/-- Every leaf takes at most 65536 bytes on the wire: string bounds are 16-bit numbers, as a
schema document gives them. -/
def Schema.Bounded (schema : Schema) : Prop := ∀ f ∈ schema.fields, f.kind.maxWireSize ≤ 2 ^ (16 : Nat)

instance (schema : Schema) : Decidable schema.Bounded :=
  inferInstanceAs (Decidable (∀ f ∈ _, _))

@[simp] theorem FieldValue.quantize_zero (k : FieldKind) : (FieldValue.zero k).quantize k = .zero k := by
  cases k with
  | float c =>
    cases c with
    | full => rfl
    | half => decide
    | angle => decide +kernel
  | _ => rfl

theorem EntityState.quantized_zeroed (schema : Schema) :
    (EntityState.zeroed schema).quantized schema = EntityState.zeroed schema := by
  simp only [EntityState.quantized, EntityState.zeroed, EntityState.mk.injEq]
  induction schema.fields with
  | nil => rfl
  | cons f fs ih => simp [ih]

theorem EntityState.settled_zeroed (schema : Schema) : (EntityState.zeroed schema).Settled schema := by
  unfold EntityState.Settled EntityState.zeroed
  induction schema.fields with
  | nil => simp
  | cons f fs ih =>
    intro p hp
    simp only [List.map_cons, List.zip_cons_cons, List.mem_cons] at hp
    rcases hp with rfl | hp
    · simp [FieldValue.Settled]
    · exact ih p hp

/-! ## Writing -/

namespace FieldBlock.Writer

variable {w : Writer}

theorem addBit_of_error_eq_none {x : Bool} (h : (w.addBit x).error = none) :
    w.error = none ∧ w.flags.length < w.maxFields ∧
      w.addBit x = { w with flags := w.flags ++ [x] } := by
  unfold addBit at h ⊢
  split at h
  · next hsome => simp [h] at hsome
  · next hsome =>
    split at h
    · simp at h
    · next hroom =>
      simp only [Option.isSome_iff_ne_none, ne_eq, Decidable.not_not] at hsome
      simp [hsome, hroom]
      omega

theorem addBytes_of_error_eq_none {bytes : Bytes} (h : (w.addBytes bytes).error = none) :
    w.error = none ∧ w.addBytes bytes = { w with payload := w.payload ++ bytes } := by
  unfold addBytes at h ⊢
  dsimp only at h ⊢
  split at h
  · next hsome => simp [h] at hsome
  · next hsome =>
    split at h
    · simp at h
    · next hroom =>
      simp only [Option.isSome_iff_ne_none, ne_eq, Decidable.not_not] at hsome
      simp [hsome, hroom]

end FieldBlock.Writer

/-- A run of `composeFrom` that ends without a kept failure added the change flags and the
changed bytes within the field budget, and every value on both sides fits its leaf. -/
theorem composeFrom_ok {i : Nat} {fs : List Field} {bs vs : List FieldValue} {w w' : Writer}
    {c c' : Nat} (h : composeFrom i fs bs vs w c = .ok (w', c')) (hw : w'.error = none) :
    w.error = none ∧ w'.flags = w.flags ++ changeFlags fs bs vs ∧
      w'.payload = w.payload ++ changedBytes fs bs vs ∧
      c' = c + (changeFlags fs bs vs).count true ∧ LeavesFit fs bs vs ∧
      w'.maxFields = w.maxFields ∧ (w.flags.length ≤ w.maxFields → w'.flags.length ≤ w.maxFields) := by
  induction fs generalizing i bs vs w c with
  | nil => cases h; simp_all [changeFlags, changedBytes, LeavesFit]
  | cons f fs ih =>
    cases bs with
    | nil => cases h; simp_all [changeFlags, changedBytes, LeavesFit]
    | cons b bs =>
    cases vs with
    | nil => cases h; simp_all [changeFlags, changedBytes, LeavesFit]
    | cons v vs =>
    simp only [composeFrom] at h
    obtain ⟨cur, hcur, h⟩ := Except.bind_eq_ok.mp h
    obtain ⟨base, hbase, h⟩ := Except.bind_eq_ok.mp h
    obtain ⟨hvfit, rfl⟩ := FieldValue.wireBytes_eq_ok.mp (Except.mapError_eq_ok.mp hcur)
    obtain ⟨hbfit, rfl⟩ := FieldValue.wireBytes_eq_ok.mp (Except.mapError_eq_ok.mp hbase)
    split at h
    · next heq =>
      have heq : v.bytesAs f.kind = b.bytesAs f.kind := by simpa using heq
      obtain ⟨hw0, hflags, hpay, hc, hfit, hmax, hroom⟩ := ih h
      obtain ⟨hwe, hlt, hadd⟩ := Writer.addBit_of_error_eq_none hw0
      rw [hadd] at hflags hpay hmax hroom
      refine ⟨hwe, ?_, ?_, ?_, ⟨hbfit, hvfit, hfit⟩, hmax, fun _ => hroom (by simp; omega)⟩
      · simp [hflags, changeFlags, heq]
      · simp [hpay, changedBytes, heq]
      · simp [hc, changeFlags, heq]
    · next hne =>
      have hne : v.bytesAs f.kind ≠ b.bytesAs f.kind := by simpa using hne
      have hflag : (v.bytesAs f.kind != b.bytesAs f.kind) = true := bne_iff_ne.mpr hne
      obtain ⟨hw0, hflags, hpay, hc, hfit, hmax, hroom⟩ := ih h
      obtain ⟨hwe1, hadd1⟩ := Writer.addBytes_of_error_eq_none hw0
      obtain ⟨hwe, hlt, hadd⟩ := Writer.addBit_of_error_eq_none hwe1
      rw [hadd1, hadd] at hflags hpay hmax hroom
      refine ⟨hwe, ?_, ?_, ?_, ⟨hbfit, hvfit, hfit⟩, hmax, fun _ => hroom (by simp; omega)⟩
      · simp [hflags, changeFlags, hflag]
      · simp [hpay, changedBytes, hne]
      · simp [hc, changeFlags, hflag]
        omega

theorem length_changeFlags {fs : List Field} {bs vs : List FieldValue} (hb : bs.length = fs.length)
    (hv : vs.length = fs.length) : (changeFlags fs bs vs).length = fs.length := by
  induction fs generalizing bs vs with
  | nil => simp [changeFlags]
  | cons f fs ih =>
    obtain ⟨b, bs, rfl⟩ := List.exists_cons_of_length_eq_add_one hb
    obtain ⟨v, vs, rfl⟩ := List.exists_cons_of_length_eq_add_one hv
    simp [changeFlags, ih (Nat.succ.inj hb) (Nat.succ.inj hv)]

theorem checkLen_eq_ok {schema : Schema} {s : EntityState} :
    checkLen schema s = .ok () ↔ s.values.length = schema.len := by
  unfold checkLen
  split <;> simp_all

theorem baseState_ok {schema : Schema} {baseline : Option EntityState} {base : EntityState}
    (h : baseState schema baseline = .ok base) :
    base = baseline.getD (EntityState.zeroed schema) ∧ base.values.length = schema.len := by
  cases baseline with
  | none =>
    cases h
    simp [EntityState.zeroed, Schema.len]
  | some b =>
    obtain ⟨_, hlen, h⟩ := Except.bind_eq_ok.mp h
    cases h
    exact ⟨rfl, checkLen_eq_ok.mp hlen⟩

/-- A composed block holds the change flags of the state against its base state, one per leaf,
and the changed bytes; every value on both sides fits its leaf. -/
theorem composeFields_ok {schema : Schema} {baseline : Option EntityState} {current : EntityState}
    {w : Writer} {changed : Nat} (h : composeFields schema baseline current = .ok (w, changed)) :
    ∃ base, baseState schema baseline = .ok base ∧ current.values.length = schema.len ∧
      w.error = none ∧ w.flags = changeFlags schema.fields base.values current.values ∧
      w.payload = changedBytes schema.fields base.values current.values ∧
      changed = (changeFlags schema.fields base.values current.values).count true ∧
      LeavesFit schema.fields base.values current.values ∧ schema.len ≤ maxBlockFields := by
  unfold composeFields at h
  obtain ⟨_, hcur, h⟩ := Except.bind_eq_ok.mp h
  obtain ⟨base, hbase, h⟩ := Except.bind_eq_ok.mp h
  obtain ⟨⟨w', c'⟩, hrun, h⟩ := Except.bind_eq_ok.mp h
  cases hw : w'.error with
  | some e => simp [hw, throw, throwThe, MonadExceptOf.throw] at h
  | none =>
    simp [hw, pure, Except.pure] at h
    obtain ⟨rfl, rfl⟩ := h
    obtain ⟨-, hflags, hpay, hc, hfit, -, hroom⟩ := composeFrom_ok hrun hw
    have hclen := checkLen_eq_ok.mp hcur
    have hflen := length_changeFlags (baseState_ok hbase).2 hclen
    refine ⟨base, hbase, hclen, hw, by simpa [Writer.new, Writer.withMaxFields] using hflags,
      by simpa [Writer.new, Writer.withMaxFields] using hpay, by simpa using hc, hfit, ?_⟩
    have hbound := hroom (by simp [Writer.new, Writer.withMaxFields])
    simp [hflags, Writer.new, Writer.withMaxFields, hflen] at hbound
    exact hbound.2

/-! ## Reading -/

namespace FieldBlock.Reader

variable {r : Reader} {rest : Bytes}

/-- A block written by a writer that kept no failure opens with its flags, the cursor at its
payload. -/
theorem begin_encoding {c : Cursor} {w : Writer} {maxFields : Nat} (hc : c.rest = w.encoding ++ rest)
    (hlen : w.flags.length ≤ min maxFields maxBlockFields) :
    begin c maxFields = ⟨⟨w.payload ++ rest, c.pos + varintLen w.flags.length +
      maskLen w.flags.length⟩, w.flags, 0, none⟩ := by
  have hcount : c.rest = encodeVarint w.flags.length ++ (packFlags w.flags ++ w.payload ++ rest) := by
    simp [hc, Writer.encoding]
  have hmask := Cursor.take_of_rest (show (⟨packFlags w.flags ++ w.payload ++ rest,
    c.pos + varintLen w.flags.length⟩ : Cursor).rest = packFlags w.flags ++ (w.payload ++ rest) by simp)
  rw [length_packFlags] at hmask
  unfold begin
  simp only [Cursor.readVarU32_of_rest hcount (by simp [maxBlockFields] at hlen; omega),
    if_neg (Nat.not_lt.mpr hlen), hmask, take_unpackMask_packFlags]

theorem getBit_of_drop {x : Bool} {more : List Bool} (hr : r.error = none)
    (h : r.flags.drop r.consumed = x :: more) :
    r.getBit = (x, { r with consumed := r.consumed + 1 }) := by
  have hx : r.flags[r.consumed]? = some x := by
    rw [← List.head?_drop, h]
    rfl
  simp [getBit, hr, hx]

theorem getBytes_of_rest {bs : Bytes} {n : Nat} (hr : r.error = none)
    (h : r.cursor.rest = bs ++ rest) (hn : bs.length = n) :
    r.getBytes n = (bs, { r with cursor := ⟨rest, r.cursor.pos + n⟩ }) := by
  subst hn
  simp [getBytes, hr, Cursor.take_of_rest h]

theorem getString_of_rest {s : String} {maxLen : Nat} (hr : r.error = none)
    (h : r.cursor.rest = encodeUtf8 s ++ 0 :: rest) (hlen : (encodeUtf8 s).length ≤ maxLen)
    (hnul : 0 ∉ encodeUtf8 s) (hmax : maxLen < maxSize) :
    r.getString maxLen =
      (s, { r with cursor := ⟨rest, r.cursor.pos + (encodeUtf8 s).length + 1⟩ }) := by
  simp [getString, hr, Cursor.readString_of_rest h hlen hnul (Nat.lt_of_le_of_lt hlen hmax)]

theorem finish_of_drop (hr : r.error = none) (h : r.flags.drop r.consumed = []) :
    r.finish = .ok () := by
  simp [finish, hr, h]

theorem readValue_bytesAs {k : FieldKind} {v : FieldValue} (hr : r.error = none)
    (hc : r.cursor.rest = v.bytesAs k ++ rest) (hfit : v.check k = .ok ())
    (hk : k.maxWireSize ≤ 2 ^ (16 : Nat)) :
    readValue k r = ((v.quantize k).quantize k,
      { r with cursor := ⟨rest, r.cursor.pos + (v.bytesAs k).length⟩ }) := by
  cases k <;> cases v <;> simp only [FieldValue.check, reduceCtorEq] at hfit <;>
    simp only [FieldValue.bytesAs] at hc ⊢
  case bool.bool b =>
    cases b <;> simp [readValue, getBytes_of_rest (n := 1) hr hc rfl, FieldValue.quantize]
  case u8.u8 x =>
    simp [readValue, getBytes_of_rest (n := 1) hr hc (by simp), FieldValue.quantize,
      ofLE_toLE_of_lt (show x.toNat < 2 ^ (8 * 1) from x.toNat_lt)]
  case u16.u16 x =>
    simp [readValue, getBytes_of_rest (n := 2) hr hc (by simp), FieldValue.quantize,
      ofLE_toLE_of_lt (show x.toNat < 2 ^ (8 * 2) from x.toNat_lt)]
  case u32.u32 x =>
    simp [readValue, getBytes_of_rest (n := 4) hr hc (by simp), FieldValue.quantize,
      ofLE_toLE_of_lt (show x.toNat < 2 ^ (8 * 4) from x.toNat_lt)]
  case u64.u64 x =>
    simp [readValue, getBytes_of_rest (n := 8) hr hc (by simp), FieldValue.quantize,
      ofLE_toLE_of_lt (show x.toNat < 2 ^ (8 * 8) from x.toNat_lt)]
  case i8.i8 x =>
    have hx := signedOf_twosComplement (w := 1) (v := x.toInt) (by decide) (by simpa using x.le_toInt) (by simpa using x.toInt_lt)
    simp [readValue, getBytes_of_rest (n := 1) hr hc (by simp), FieldValue.quantize, hx]
  case i16.i16 x =>
    have hx := signedOf_twosComplement (w := 2) (v := x.toInt) (by decide) (by simpa using x.le_toInt) (by simpa using x.toInt_lt)
    simp [readValue, getBytes_of_rest (n := 2) hr hc (by simp), FieldValue.quantize, hx]
  case i32.i32 x =>
    have hx := signedOf_twosComplement (w := 4) (v := x.toInt) (by decide) (by simpa using x.le_toInt) (by simpa using x.toInt_lt)
    simp [readValue, getBytes_of_rest (n := 4) hr hc (by simp), FieldValue.quantize, hx]
  case i64.i64 x =>
    have hx := signedOf_twosComplement (w := 8) (v := x.toInt) (by decide) (by simpa using x.le_toInt) (by simpa using x.toInt_lt)
    simp [readValue, getBytes_of_rest (n := 8) hr hc (by simp), FieldValue.quantize, hx]
  case float.f32 c x =>
    simp [readValue, getBytes_of_rest (n := c.wireSize) hr hc (by simp), FieldValue.quantize,
      FloatCodec.fromBits_ofLE_toLE]
  case enum.enum variants x =>
    have hlt : x.toNat < variants := by
      by_contra hn
      simp [hn] at hfit
    have hx : x.toNat < 2 ^ (8 * enumWidth variants) := by
      have := x.toNat_lt
      unfold enumWidth
      split_ifs <;> simp <;> omega
    simp [readValue, getBytes_of_rest (n := enumWidth variants) hr hc (by simp), FieldValue.quantize,
      ofLE_toLE_of_lt hx, Nat.not_le.mpr hlt]
  case str.str maxLen s =>
    have hlen : (encodeUtf8 s).length ≤ maxLen := by
      by_contra hn
      simp [Nat.lt_of_not_le hn] at hfit
    have hnul : 0 ∉ encodeUtf8 s := by
      intro h0
      simp [Nat.not_lt.mpr hlen, h0] at hfit
    have hmax : maxLen < maxSize := by
      simp [FieldKind.maxWireSize, maxSize] at hk ⊢
      omega
    rw [List.append_assoc, List.singleton_append] at hc
    simp [readValue, getString_of_rest hr hc hlen hnul hmax, FieldValue.quantize, Nat.add_assoc]

theorem quantize_quantize_eq_of_bytesAs_eq {k : FieldKind} {v b : FieldValue}
    (hv : v.check k = .ok ()) (hb : b.check k = .ok ()) (hk : k.maxWireSize ≤ 2 ^ (16 : Nat))
    (h : v.bytesAs k = b.bytesAs k) : (v.quantize k).quantize k = (b.quantize k).quantize k := by
  let r : Reader := ⟨⟨v.bytesAs k, 0⟩, [], 0, none⟩
  have hv' := readValue_bytesAs (r := r) rfl (show r.cursor.rest = v.bytesAs k ++ [] by simp [r]) hv hk
  have hb' := readValue_bytesAs (r := r) rfl (show r.cursor.rest = b.bytesAs k ++ [] by simp [r, h]) hb hk
  exact congrArg Prod.fst (hv'.symm.trans hb')

end FieldBlock.Reader

/-! ## Round trip -/

open FieldBlock.Reader in
/-- Read on top of the quantized base values, a block of `vs` against `bs` gives the quantized
values of `vs`, provided the values on both sides are settled. -/
theorem readFlagged_changes {fs : List Field} {bs vs : List FieldValue} {r : FieldBlock.Reader}
    {more : List Bool} {rest : Bytes} (hfit : LeavesFit fs bs vs) (hb : bs.length = fs.length)
    (hv : vs.length = fs.length) (hk : ∀ f ∈ fs, f.kind.maxWireSize ≤ 2 ^ (16 : Nat))
    (hbs : ∀ p ∈ fs.zip bs, p.2.Settled p.1.kind) (hvs : ∀ p ∈ fs.zip vs, p.2.Settled p.1.kind)
    (hr : r.error = none) (hflags : r.flags.drop r.consumed = changeFlags fs bs vs ++ more)
    (hc : r.cursor.rest = changedBytes fs bs vs ++ rest) :
    readFlagged fs (List.zipWith (fun f b => b.quantize f.kind) fs bs) r =
      (List.zipWith (fun f v => v.quantize f.kind) fs vs,
        { r with consumed := r.consumed + fs.length,
                 cursor := ⟨rest, r.cursor.pos + (changedBytes fs bs vs).length⟩ }) := by
  induction fs generalizing bs vs r with
  | nil =>
    obtain rfl := List.eq_nil_of_length_eq_zero hb
    obtain rfl := List.eq_nil_of_length_eq_zero hv
    obtain ⟨⟨_, _⟩, _, _, _⟩ := r
    simp_all [readFlagged, changedBytes]
  | cons f fs ih =>
    obtain ⟨b, bs, rfl⟩ := List.exists_cons_of_length_eq_add_one hb
    obtain ⟨v, vs, rfl⟩ := List.exists_cons_of_length_eq_add_one hv
    obtain ⟨hbfit, hvfit, hfit⟩ := hfit
    have hkf := hk f (by simp)
    have hbset : b.Settled f.kind := hbs (f, b) (by simp)
    have hvset : v.Settled f.kind := hvs (f, v) (by simp)
    have ih' := fun {r : FieldBlock.Reader} => ih (r := r) hfit (Nat.succ.inj hb) (Nat.succ.inj hv)
      (fun g hg => hk g (List.mem_cons_of_mem _ hg)) (fun p hp => hbs p (List.mem_cons_of_mem _ hp))
      (fun p hp => hvs p (List.mem_cons_of_mem _ hp))
    by_cases heq : v.bytesAs f.kind = b.bytesAs f.kind
    · -- an unchanged leaf: its flag is clear and the quantized base value stands
      have hq : b.quantize f.kind = v.quantize f.kind := by
        rw [← hbset, ← hvset, quantize_quantize_eq_of_bytesAs_eq hvfit hbfit hkf heq]
      have hflag : r.flags.drop r.consumed = false :: (changeFlags fs bs vs ++ more) := by
        simp [hflags, changeFlags, heq]
      have hrest := ih' (r := { r with consumed := r.consumed + 1 }) hr
        (by simp [← List.drop_drop, hflag]) (by simpa [changedBytes, heq] using hc)
      simp only [readFlagged, getBit_of_drop hr hflag, Bool.false_eq_true, if_false,
        List.zipWith_cons_cons, hrest, hq]
      simp [changedBytes, heq]
      omega
    · -- a changed leaf: its flag is set and its bytes are read
      have hflag : r.flags.drop r.consumed = true :: (changeFlags fs bs vs ++ more) := by
        simp [hflags, changeFlags, heq]
      have hleaf : readValue f.kind { r with consumed := r.consumed + 1 } =
          ((v.quantize f.kind).quantize f.kind,
            { r with
              consumed := r.consumed + 1
              cursor := ⟨changedBytes fs bs vs ++ rest, r.cursor.pos + (v.bytesAs f.kind).length⟩ }) :=
        readValue_bytesAs hr (by simp [hc, changedBytes, heq]) hvfit hkf
      have hrest := ih'
        (r := { r with
          consumed := r.consumed + 1
          cursor := ⟨changedBytes fs bs vs ++ rest, r.cursor.pos + (v.bytesAs f.kind).length⟩ })
        hr (by simp [← List.drop_drop, hflag]) rfl
      simp only [readFlagged, getBit_of_drop hr hflag, if_true, hleaf, List.zipWith_cons_cons, hrest]
      rw [show (v.quantize f.kind).quantize f.kind = v.quantize f.kind from hvset]
      simp [changedBytes, heq, Nat.add_assoc, Nat.add_comm 1]

theorem baseState_map_quantized {schema : Schema} {baseline : Option EntityState}
    {base : EntityState} (h : baseState schema baseline = .ok base) :
    baseState schema (baseline.map (·.quantized schema)) = .ok (base.quantized schema) := by
  obtain ⟨rfl, hlen⟩ := baseState_ok h
  cases baseline with
  | none => simp [baseState, EntityState.quantized_zeroed, pure, Except.pure]
  | some b =>
    have hq : (b.quantized schema).values.length = schema.len := by
      simp [EntityState.quantized, Schema.len] at hlen ⊢
      omega
    simp [baseState, checkLen_eq_ok.mpr hq, bind, Except.bind, pure, Except.pure]

open FieldBlock.Reader in
/-- A field block composed for `current` against `baseline` reads back, on top of the
baseline's quantized form, as the quantized state; the cursor ends right after the block. -/
theorem decodeFields_encoding {schema : Schema} {baseline : Option EntityState}
    {current : EntityState} {w : FieldBlock.Writer} {changed : Nat} {c : Cursor} {rest : Bytes}
    (h : composeFields schema baseline current = .ok (w, changed)) (hk : schema.Bounded)
    (hbase : ∀ b, baseline = some b → b.Settled schema) (hcur : current.Settled schema)
    (hc : c.rest = w.encoding ++ rest) :
    decodeFields schema (baseline.map (·.quantized schema)) c =
      .ok (current.quantized schema, ⟨rest, c.pos + w.encodedLen⟩) := by
  obtain ⟨base, hbs, hclen, hnone, hflags, hpay, -, hfit, hmax⟩ := composeFields_ok h
  obtain ⟨hbase_eq, hblen⟩ := baseState_ok hbs
  have hflen : w.flags.length = schema.len := by
    rw [hflags, length_changeFlags hblen hclen]
    rfl
  have hbegin : begin c schema.len = ⟨⟨w.payload ++ rest, c.pos + varintLen w.flags.length +
      maskLen w.flags.length⟩, w.flags, 0, none⟩ :=
    begin_encoding hc (by simp [hflen, hmax])
  have hbset : ∀ p ∈ schema.fields.zip base.values, p.2.Settled p.1.kind := by
    cases baseline with
    | none => rw [hbase_eq]; exact EntityState.settled_zeroed schema
    | some b => rw [hbase_eq]; exact hbase b rfl
  have hread := readFlagged_changes hfit hblen hclen hk hbset hcur (by rw [hbegin])
    (show (begin c schema.len).flags.drop (begin c schema.len).consumed =
      changeFlags schema.fields base.values current.values ++ [] by simp [hbegin, hflags])
    (show (begin c schema.len).cursor.rest = changedBytes schema.fields base.values current.values ++ rest
      by simp [hbegin, hpay])
  have hfinish : (readFlagged schema.fields (base.quantized schema).values (begin c schema.len)).2.finish
      = .ok () := by
    rw [EntityState.quantized, hread]
    refine finish_of_drop (by simp [hbegin]) ?_
    simp only [hbegin, List.drop_eq_nil_iff]
    rw [hflen]
    simp [Schema.len]
  unfold decodeFields
  simp only [baseState_map_quantized hbs, bind, Except.bind, hfinish, Except.mapError, pure,
    Except.pure]
  rw [EntityState.quantized] at hfinish ⊢
  rw [hread]
  simp only [hbegin, FieldBlock.Writer.encodedLen, hpay, EntityState.quantized, Nat.add_assoc]

theorem zipWith_quantize_eq_of_changeFlags {fs : List Field} {bs vs : List FieldValue}
    (hfit : LeavesFit fs bs vs) (hb : bs.length = fs.length) (hv : vs.length = fs.length)
    (hk : ∀ f ∈ fs, f.kind.maxWireSize ≤ 2 ^ (16 : Nat))
    (hbs : ∀ p ∈ fs.zip bs, p.2.Settled p.1.kind) (hvs : ∀ p ∈ fs.zip vs, p.2.Settled p.1.kind)
    (hnone : true ∉ changeFlags fs bs vs) :
    List.zipWith (fun f v => v.quantize f.kind) fs vs =
      List.zipWith (fun f b => b.quantize f.kind) fs bs := by
  induction fs generalizing bs vs with
  | nil => simp
  | cons f fs ih =>
    obtain ⟨b, bs, rfl⟩ := List.exists_cons_of_length_eq_add_one hb
    obtain ⟨v, vs, rfl⟩ := List.exists_cons_of_length_eq_add_one hv
    obtain ⟨hbfit, hvfit, hfit⟩ := hfit
    have heq : v.bytesAs f.kind = b.bytesAs f.kind := by
      by_contra hne
      exact hnone (by simp [changeFlags, hne])
    have hbset : b.Settled f.kind := hbs (f, b) (by simp)
    have hvset : v.Settled f.kind := hvs (f, v) (by simp)
    have hq : v.quantize f.kind = b.quantize f.kind := by
      rw [← hbset, ← hvset,
        FieldBlock.Reader.quantize_quantize_eq_of_bytesAs_eq hvfit hbfit (hk f (by simp)) heq]
    simp only [List.zipWith_cons_cons, hq, List.cons.injEq, true_and]
    exact ih hfit (Nat.succ.inj hb) (Nat.succ.inj hv) (fun g hg => hk g (List.mem_cons_of_mem _ hg))
      (fun p hp => hbs p (List.mem_cons_of_mem _ hp)) (fun p hp => hvs p (List.mem_cons_of_mem _ hp))
      (by simpa [changeFlags, heq] using hnone)

/-- An entity whose block against its baseline changes no leaf agrees with the baseline once
quantized. -/
theorem quantized_eq_of_composeFields_unchanged {schema : Schema} {b current : EntityState}
    {w : FieldBlock.Writer} (h : composeFields schema (some b) current = .ok (w, 0))
    (hk : schema.Bounded) (hb : b.Settled schema) (hcur : current.Settled schema) :
    current.quantized schema = b.quantized schema := by
  obtain ⟨base, hbs, hclen, -, -, -, hcount, hfit, -⟩ := composeFields_ok h
  obtain ⟨rfl, hblen⟩ := baseState_ok hbs
  simp only [EntityState.quantized, EntityState.mk.injEq]
  exact zipWith_quantize_eq_of_changeFlags hfit hblen hclen hk hb hcur
    (List.count_eq_zero.mp hcount.symm)

theorem decodeEntity_removed {schema : Schema} {baseline : Option EntityState} {c : Cursor}
    {rest : Bytes} (hc : c.rest = 0 :: rest) :
    decodeEntity schema baseline c = .ok (none, ⟨rest, c.pos + 1⟩) := by
  have hread := Cursor.readUInt_of_rest (show c.rest = toLE 1 0 ++ rest by simp [hc, toLE])
    (by decide)
  simp [decodeEntity, hread, Except.mapError, bind, Except.bind, pure, Except.pure]

/-- A present entity's entry, its exists byte and its field block, reads back on top of the
baseline's quantized form as the quantized state. -/
theorem decodeEntity_present {schema : Schema} {baseline : Option EntityState}
    {current : EntityState} {w : FieldBlock.Writer} {changed : Nat} {c : Cursor} {rest : Bytes}
    (h : composeFields schema baseline current = .ok (w, changed)) (hk : schema.Bounded)
    (hbase : ∀ b, baseline = some b → b.Settled schema) (hcur : current.Settled schema)
    (hc : c.rest = 1 :: (w.encoding ++ rest)) :
    decodeEntity schema (baseline.map (·.quantized schema)) c =
      .ok (some (current.quantized schema), ⟨rest, c.pos + 1 + w.encodedLen⟩) := by
  have hread := Cursor.readUInt_of_rest (show c.rest = toLE 1 1 ++ (w.encoding ++ rest) by
    simp [hc, toLE]) (by decide)
  have hfields := decodeFields_encoding (c := ⟨w.encoding ++ rest, c.pos + 1⟩) h hk hbase hcur rfl
  simp [decodeEntity, hread, hfields, Except.mapError, bind, Except.bind, pure, Except.pure]

end EntitySync
