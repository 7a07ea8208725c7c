import EntitySync.Proofs.FieldLayout
/-!
# Snapshot bodies as they are laid out

The body the encoder writes for the change from a baseline snapshot `B` to a current one `C`,
byte for byte, and exactly when it writes it. The encoder walks the union of both snapshots'
slots in ascending order (`mergeSlots`); `mergeSlots_walks_union` says that the walk meets each
slot of either snapshot exactly once, with the states both hold there. Each slot has at most one
entry (`bodyEntry`): a slot that left `C` is its number and a clear exists byte; a slot new in
`C` is its number, a set exists byte and its field block against the zero state; a slot on both
sides is its number, a set exists byte and its field block against the baseline state, when that
block flags some leaf, and nothing otherwise. The body is the number of entries as a varint, then
the entries.

`encodeBody_layout` says that the encoder succeeds exactly when every slot of the walk is below
the slot bound (also those it leaves out), the states it composes fit the schema, the entries
number at most `maxEntries` and the body fits the output's free room; that it then appends that
body; and that two snapshots equal once quantized give the body of no entries, the single byte
0. A buffer's capacity was allocated when it was made, so it is below the largest size.
-/

namespace EntitySync

open FieldBlock WriteM

variable {schema : Schema} {limits : CodecLimits}

/-- The entry of one slot of the walk, when it has one. -/
def bodyEntry (schema : Schema) : Slot × Option EntityState × Option EntityState → Option Bytes
  | (slot, _, none) => some (encodeVarint slot.toNat ++ [0])
  | (slot, none, some c) =>
    some (encodeVarint slot.toNat ++ 1 :: fieldBlock schema (EntityState.zeroed schema) c)
  | (slot, some b, some c) =>
    if true ∈ changeFlags schema.fields b.values c.values then
      some (encodeVarint slot.toNat ++ 1 :: fieldBlock schema b c)
    else none

/-- What the encoder checks at one slot of the walk, whether it writes an entry there or not: the
slot is below the bound, and the states it composes fit the schema, that is the current state
and, with it, the baseline state. -/
def SlotEncodable (schema : Schema) (limits : CodecLimits)
    (e : Slot × Option EntityState × Option EntityState) : Prop :=
  e.1.toNat < limits.maxSlots ∧ ∀ c ∈ e.2.2, c.WellTyped schema ∧ ∀ b ∈ e.2.1, b.WellTyped schema

instance (e : Slot × Option EntityState × Option EntityState) :
    Decidable (SlotEncodable schema limits e) :=
  inferInstanceAs (Decidable (_ ∧ ∀ c ∈ _, _))

/-! ## Composed states -/

theorem LeavesFit.forall_zip {fs : List Field} {bs vs : List FieldValue} (h : LeavesFit fs bs vs)
    (hb : bs.length = fs.length) (hv : vs.length = fs.length) :
    (∀ p ∈ fs.zip bs, p.2.check p.1.kind = .ok ()) ∧ ∀ p ∈ fs.zip vs, p.2.check p.1.kind = .ok () := by
  induction fs generalizing bs vs with
  | nil => simp
  | cons f fs ih =>
    obtain ⟨b, bs, rfl⟩ := List.exists_cons_of_length_eq_add_one hb
    obtain ⟨v, vs, rfl⟩ := List.exists_cons_of_length_eq_add_one hv
    obtain ⟨hbf, hvf, hrest⟩ := h
    obtain ⟨ihb, ihv⟩ := ih hrest (Nat.succ.inj hb) (Nat.succ.inj hv)
    exact ⟨List.forall_mem_cons.mpr ⟨hbf, ihb⟩, List.forall_mem_cons.mpr ⟨hvf, ihv⟩⟩

theorem wellTyped_of_composeFields_eq_ok {baseline : Option EntityState} {current : EntityState}
    {w : Writer} {changed : Nat} (h : composeFields schema baseline current = .ok (w, changed)) :
    current.WellTyped schema ∧ ∀ b ∈ baseline, b.WellTyped schema := by
  obtain ⟨base, hbs, hclen, -, -, -, -, hfit, -⟩ := composeFields_ok h
  obtain ⟨rfl, hblen⟩ := baseState_ok hbs
  obtain ⟨hbchk, hvchk⟩ := hfit.forall_zip hblen hclen
  refine ⟨⟨hclen, hvchk⟩, fun b hb => ?_⟩
  obtain rfl : baseline = some b := hb
  exact ⟨hblen, hbchk⟩

/-- On a validated schema composing succeeds exactly on states that fit it, with the writer
that holds the change flags and the changed bytes. -/
theorem composeFields_eq_ok_iff {baseline : Option EntityState} {current : EntityState}
    {w : Writer} {changed : Nat} (hvalid : schema.validate = .ok ()) :
    composeFields schema baseline current = .ok (w, changed) ↔
      (current.WellTyped schema ∧ ∀ b ∈ baseline, b.WellTyped schema) ∧
        w = composedWriter schema (baseline.getD (EntityState.zeroed schema)) current ∧
        changed = (changeFlags schema.fields (baseline.getD (EntityState.zeroed schema)).values
          current.values).count true := by
  constructor
  · intro h
    obtain ⟨hcur, hbase⟩ := wellTyped_of_composeFields_eq_ok h
    rw [composeFields_eq_ok_of_wellTyped hvalid hbase hcur] at h
    obtain ⟨rfl, rfl⟩ := Prod.mk.inj (Except.ok.inj h)
    exact ⟨⟨hcur, hbase⟩, rfl, rfl⟩
  · rintro ⟨⟨hcur, hbase⟩, rfl, rfl⟩
    exact composeFields_eq_ok_of_wellTyped hvalid hbase hcur

/-! ## Staging the entries -/

theorem SlotEncodable.of_present {slot : Slot} {base : Option EntityState} {c : EntityState}
    (hslot : slot.toNat < limits.maxSlots) (hcur : c.WellTyped schema)
    (hbase : ∀ b ∈ base, b.WellTyped schema) : SlotEncodable schema limits (slot, base, some c) :=
  ⟨hslot, fun _ hc => by cases hc; exact ⟨hcur, hbase⟩⟩

/-- The step of staging one slot, on states the encoder accepts: the entry of the slot, if it has
one, is written, then the rest of the walk is staged. -/
theorem stageEntries_cons_run {slot : Slot} {base cur : Option EntityState}
    {L : List (Slot × Option EntityState × Option EntityState)} {n : Nat} {s : Buffer}
    (hvalid : schema.validate = .ok ()) (hok : SlotEncodable schema limits (slot, base, cur))
    (hfit : s.Fits ((bodyEntry schema (slot, base, cur)).getD []).length) :
    (stageEntries schema limits ((slot, base, cur) :: L) n).run s =
      (stageEntries schema limits L (n + ((bodyEntry schema (slot, base, cur)).map fun _ => 1).getD 0)).run
        (s.appended ((bodyEntry schema (slot, base, cur)).getD [])) := by
  obtain ⟨hslot, htyped⟩ := hok
  cases cur with
  | none =>
    simp only [stageEntries]
    rw [if_neg (Nat.not_le.mpr hslot)]
    have hw : Writes (((writeVarint slot.toNat).adaptExcept CodecError.stream) >>= fun _ =>
        (write [0]).adaptExcept CodecError.stream) (encodeVarint slot.toNat ++ [0]) () :=
      Writes.bind (Writes.write.adaptExcept _) (Writes.write.adaptExcept _)
    simp only [bodyEntry, Option.getD_some, Option.map_some] at hfit ⊢
    rw [← bind_assoc, run_bind_ok (hw s hfit)]
  | some c =>
    simp only [stageEntries]
    rw [if_neg (Nat.not_le.mpr hslot)]
    obtain ⟨hcur, hbase⟩ := htyped c rfl
    rw [composeFields_eq_ok_of_wellTyped hvalid hbase hcur, run_bind_ok (run_liftExcept_ok s)]
    have hbwt := EntityState.wellTyped_getD hvalid hbase
    have hw : ∀ base' : EntityState, base'.WellTyped schema →
        Writes ((((writeVarint slot.toNat).adaptExcept CodecError.stream) >>= fun _ =>
          (write [1]).adaptExcept CodecError.stream) >>= fun _ =>
            (composedWriter schema base' c).finishInto.adaptExcept CodecError.stream)
          (encodeVarint slot.toNat ++ [1] ++ fieldBlock schema base' c)
          (composedWriter schema base' c).encodedLen := by
      intro base' hb'
      rw [← composedWriter_encoding hb'.1 hcur.1]
      exact Writes.bind (Writes.bind (Writes.write.adaptExcept _) (Writes.write.adaptExcept _))
        ((Writer.finishInto_writes (composedWriter_error _ _)).adaptExcept _)
    cases base with
    | none =>
      simp only [bodyEntry, Option.getD_some, Option.map_some, Option.isSome_none,
        Bool.false_eq_true, false_and, if_false] at hfit ⊢
      rw [← bind_assoc, ← bind_assoc, run_bind_ok (hw _ hbwt s (by simpa using hfit))]
      simp
    | some b =>
      simp only [Option.getD_some] at hbwt ⊢
      by_cases hch : true ∈ changeFlags schema.fields b.values c.values
      · have hcount : (changeFlags schema.fields b.values c.values).count true ≠ 0 :=
          Nat.pos_iff_ne_zero.mp (List.count_pos_iff.mpr hch)
        simp only [bodyEntry, hch, if_true, Option.getD_some, Option.map_some, Option.isSome_some,
          true_and, hcount, if_false] at hfit ⊢
        rw [← bind_assoc, ← bind_assoc, run_bind_ok (hw _ hbwt s (by simpa using hfit))]
        simp
      · have hcount : (changeFlags schema.fields b.values c.values).count true = 0 :=
          List.count_eq_zero.mpr hch
        simp [bodyEntry, hch, hcount]

/-- Staging a walk whose slots the encoder accepts writes their entries in order and counts them,
when the staging buffer has room for all of them. -/
theorem stageEntries_run_of_encodable {L : List (Slot × Option EntityState × Option EntityState)}
    {n : Nat} {s : Buffer} (hvalid : schema.validate = .ok ())
    (hok : ∀ e ∈ L, SlotEncodable schema limits e)
    (hfit : s.Fits (L.filterMap (bodyEntry schema)).flatten.length) :
    (stageEntries schema limits L n).run s =
      .ok (n + (L.filterMap (bodyEntry schema)).length)
        (s.appended (L.filterMap (bodyEntry schema)).flatten) := by
  induction L generalizing n s with
  | nil => simp [stageEntries]
  | cons e L ih =>
    obtain ⟨slot, base, cur⟩ := e
    have hsplit : ((bodyEntry schema (slot, base, cur)).getD [] ++
        (L.filterMap (bodyEntry schema)).flatten) =
        (((slot, base, cur) :: L).filterMap (bodyEntry schema)).flatten := by
      rcases hentry : bodyEntry schema (slot, base, cur) with _ | entry <;> simp [hentry]
    rw [← hsplit, List.length_append] at hfit
    rw [stageEntries_cons_run hvalid (hok _ (by simp)) (hfit.mono (Nat.le_add_right _ _)),
      ih (fun e he => hok e (by simp [he])) hfit.appended, Buffer.appended_appended, hsplit]
    rcases hentry : bodyEntry schema (slot, base, cur) with _ | entry
    · simp [hentry]
    · simp [hentry]
      omega

/-- A successful staging accepted every slot of the walk, and wrote its entries in order and
counted them. -/
theorem stageEntries_eq_ok_entries {L : List (Slot × Option EntityState × Option EntityState)}
    {n n' : Nat} {s s' : Buffer} (hvalid : schema.validate = .ok ())
    (h : (stageEntries schema limits L n).run s = .ok n' s') :
    (∀ e ∈ L, SlotEncodable schema limits e) ∧ n' = n + (L.filterMap (bodyEntry schema)).length ∧
      s' = s.appended (L.filterMap (bodyEntry schema)).flatten := by
  induction L generalizing n s with
  | nil =>
    simp only [stageEntries, run_pure, EStateM.Result.ok.injEq] at h
    obtain ⟨rfl, rfl⟩ := h
    simp
  | cons e L ih =>
    obtain ⟨slot, base, cur⟩ := e
    obtain ⟨hslot, hstep⟩ := stageEntries_cons_eq_ok h
    rcases hstep with ⟨rfl, hrest⟩ | ⟨st, w, rfl, hsome, hcomp, hrest⟩ |
      ⟨st, w, changed, rfl, hcomp, hemit, hrest⟩
    · -- a removal
      obtain ⟨hall, rfl, rfl⟩ := ih hrest
      exact ⟨List.forall_mem_cons.mpr ⟨⟨hslot, by simp⟩, hall⟩, by simp [bodyEntry]; omega,
        by simp [bodyEntry]⟩
    · -- an entity that did not change against its baseline
      obtain ⟨b, rfl⟩ := Option.isSome_iff_exists.mp hsome
      obtain ⟨⟨hcur, hbase⟩, -, hcount⟩ := (composeFields_eq_ok_iff hvalid).mp hcomp
      have hch : true ∉ changeFlags schema.fields b.values st.values :=
        List.count_eq_zero.mp (by simpa using hcount.symm)
      obtain ⟨hall, rfl, rfl⟩ := ih hrest
      exact ⟨List.forall_mem_cons.mpr ⟨.of_present hslot hcur hbase, hall⟩,
        by simp [bodyEntry, hch], by simp [bodyEntry, hch]⟩
    · -- an entity written with its block
      obtain ⟨⟨hcur, hbase⟩, rfl, rfl⟩ := (composeFields_eq_ok_iff hvalid).mp hcomp
      have hbwt := EntityState.wellTyped_getD hvalid hbase
      obtain ⟨hall, rfl, rfl⟩ := ih hrest
      have hentry : bodyEntry schema (slot, base, some st) =
          some (encodeVarint slot.toNat ++ 1 :: fieldBlock schema
            (base.getD (EntityState.zeroed schema)) st) := by
        cases base with
        | none => rfl
        | some b =>
          have hch : true ∈ changeFlags schema.fields b.values st.values :=
            List.count_pos_iff.mp (Nat.pos_of_ne_zero (by simpa using hemit))
          simp [bodyEntry, hch]
      refine ⟨List.forall_mem_cons.mpr ⟨.of_present hslot hcur hbase, hall⟩,
        by simp [hentry]; omega, ?_⟩
      simp [hentry, composedWriter_encoding hbwt.1 hcur.1]

/-! ## The body -/

/-- The entries of the body of the change from `B` to `C`, in the order of the walk. -/
def bodyEntries (schema : Schema) (B C : Snapshot) : List Bytes :=
  (mergeSlots B.entities C.entities).filterMap (bodyEntry schema)

/-- The body of the change from `B` to `C`: the number of entries, then the entries. -/
def bodyBytes (schema : Schema) (B C : Snapshot) : Bytes :=
  encodeVarint (bodyEntries schema B C).length ++ (bodyEntries schema B C).flatten

theorem length_bodyBytes (schema : Schema) (B C : Snapshot) :
    (bodyBytes schema B C).length =
      varintLen (bodyEntries schema B C).length + (bodyEntries schema B C).flatten.length := by
  simp [bodyBytes]

/-- On a buffer whose capacity is below the largest size, a write of at least one byte fits
exactly when it is within the free room. -/
theorem Buffer.fits_iff_le_free {b : Buffer} {n : Nat} (hcap : b.capacity < maxSize) (hn : 0 < n) :
    b.Fits n ↔ n ≤ b.free := by
  unfold Buffer.Fits satAdd Buffer.free
  omega

theorem Buffer.fits_empty {cap n : Nat} (h : n ≤ cap) : (Buffer.empty cap).Fits n := by
  simp only [Buffer.Fits, satAdd, Buffer.empty, List.length_nil, Nat.zero_add]
  omega

/-- The encoder on snapshots whose walk it accepts, with no more entries than the bound and a
body within the output's free room: it appends the body. -/
theorem encodeBody_run_of_encodable {B C : Snapshot} {out : Buffer} (hvalid : schema.validate = .ok ())
    (hcap : out.capacity < maxSize)
    (hok : ∀ e ∈ mergeSlots B.entities C.entities, SlotEncodable schema limits e)
    (hmax : (bodyEntries schema B C).length ≤ limits.maxEntries)
    (hfree : (bodyBytes schema B C).length ≤ out.free) :
    (encodeBody schema B C limits).run out =
      .ok (bodyBytes schema B C).length (out.appended (bodyBytes schema B C)) := by
  have hlen := length_bodyBytes schema B C
  have hpos := varintLen_pos (bodyEntries schema B C).length
  -- the staging buffer is as large as the free room, so the entries fit in it
  have hstage : (stageEntries schema limits (mergeSlots B.entities C.entities) 0).run
      (Buffer.empty out.free) =
      .ok (bodyEntries schema B C).length ((Buffer.empty out.free).appended (bodyEntries schema B C).flatten) := by
    rw [stageEntries_run_of_encodable hvalid hok (Buffer.fits_empty (by unfold bodyEntries at hlen; omega)),
      Nat.zero_add]
    rfl
  have hfit : out.Fits (bodyBytes schema B C).length :=
    (Buffer.fits_iff_le_free hcap (by omega)).mpr hfree
  have hw : Writes (((writeVarint (bodyEntries schema B C).length).adaptExcept CodecError.stream) >>=
      fun _ => (write (bodyEntries schema B C).flatten).adaptExcept CodecError.stream >>= fun _ =>
        pure (varintLen (bodyEntries schema B C).length + (bodyEntries schema B C).flatten.length))
      (bodyBytes schema B C) (bodyBytes schema B C).length := by
    rw [hlen, bodyBytes, ← List.append_nil (_ ++ _), List.append_assoc]
    exact Writes.bind (Writes.write.adaptExcept _) (Writes.bind (Writes.write.adaptExcept _) Writes.pure)
  unfold encodeBody
  rw [run_bind_ok (run_get out)]
  simp only [hstage]
  simp only [Buffer.size, Buffer.appended_data, Buffer.empty, List.nil_append]
  rw [if_neg (Nat.not_lt.mpr hmax)]
  exact Writes.ensureFree_adaptExcept_bind hw hlen.symm out hfit

/-- A successful run accepted every slot of the walk and counted no more entries than the bound,
and the body was within the output's free room. -/
theorem encodeBody_eq_ok_encodable {B C : Snapshot} {out out' : Buffer} {n : Nat}
    (hvalid : schema.validate = .ok ()) (hcap : out.capacity < maxSize)
    (h : (encodeBody schema B C limits).run out = .ok n out') :
    (∀ e ∈ mergeSlots B.entities C.entities, SlotEncodable schema limits e) ∧
      (bodyEntries schema B C).length ≤ limits.maxEntries ∧ (bodyBytes schema B C).length ≤ out.free := by
  obtain ⟨count, staged, hstage, hmax, hfit, -⟩ := encodeBody_eq_ok h
  obtain ⟨hok, rfl, rfl⟩ := stageEntries_eq_ok_entries hvalid hstage
  have hbytes : encodeVarint (0 + (bodyEntries schema B C).length) ++
      ((Buffer.empty out.free).appended (bodyEntries schema B C).flatten).data = bodyBytes schema B C := by
    simp [bodyBytes, Buffer.empty]
  rw [bodyEntries] at hbytes
  rw [hbytes] at hfit
  have hpos := varintLen_pos (bodyEntries schema B C).length
  refine ⟨hok, by simpa [bodyEntries] using hmax, (Buffer.fits_iff_le_free hcap ?_).mp hfit⟩
  rw [length_bodyBytes]
  omega

/-! ## What the encoder requires, read off the snapshots -/

/-- What the encoder requires of the change from `B` to `C`: every slot of either snapshot is
below the slot bound, every state of `C` fits the schema, and so does every state of `B` at a
slot `C` also holds. -/
structure BodyEncodable (schema : Schema) (limits : CodecLimits) (B C : Snapshot) : Prop where
  slots_lt : ∀ e ∈ B.entities ++ C.entities, e.1.toNat < limits.maxSlots
  current_wellTyped : ∀ e ∈ C.entities, e.2.WellTyped schema
  baseline_wellTyped : ∀ e ∈ B.entities, C.get? e.1 ≠ none → e.2.WellTyped schema

theorem mem_mergeSlots_of_mem_baseline {B C : List (Slot × EntityState)} {x : Slot × EntityState}
    (hx : x ∈ B) : ∃ e ∈ mergeSlots B C, e.1 = x.1 ∧ e.2.1 = some x.2 := by
  rw [← mergeSlots_baseline B C, List.mem_filterMap] at hx
  obtain ⟨e, he, hex⟩ := hx
  obtain ⟨b, hb, rfl⟩ := Option.map_eq_some_iff.mp hex
  exact ⟨e, he, rfl, hb⟩

theorem mem_mergeSlots_of_mem_current {B C : List (Slot × EntityState)} {x : Slot × EntityState}
    (hx : x ∈ C) : ∃ e ∈ mergeSlots B C, e.1 = x.1 ∧ e.2.2 = some x.2 := by
  rw [← mergeSlots_current B C, List.mem_filterMap] at hx
  obtain ⟨e, he, hex⟩ := hx
  obtain ⟨c, hc, rfl⟩ := Option.map_eq_some_iff.mp hex
  exact ⟨e, he, rfl, hc⟩

theorem mem_baseline_of_mem_mergeSlots {B C : List (Slot × EntityState)}
    {e : Slot × Option EntityState × Option EntityState} {b : EntityState}
    (he : e ∈ mergeSlots B C) (hb : e.2.1 = some b) : (e.1, b) ∈ B := by
  rw [← mergeSlots_baseline B C, List.mem_filterMap]
  exact ⟨e, he, by simp [hb]⟩

theorem mem_current_of_mem_mergeSlots {B C : List (Slot × EntityState)}
    {e : Slot × Option EntityState × Option EntityState} {c : EntityState}
    (he : e ∈ mergeSlots B C) (hc : e.2.2 = some c) : (e.1, c) ∈ C := by
  rw [← mergeSlots_current B C, List.mem_filterMap]
  exact ⟨e, he, by simp [hc]⟩

theorem exists_mem_mergeSlots_of_mem_append {B C : List (Slot × EntityState)}
    {x : Slot × EntityState} (hx : x ∈ B ++ C) : ∃ e ∈ mergeSlots B C, e.1 = x.1 := by
  rcases List.mem_append.mp hx with hx | hx
  · obtain ⟨e, he, hk, -⟩ := mem_mergeSlots_of_mem_baseline (C := C) hx
    exact ⟨e, he, hk⟩
  · obtain ⟨e, he, hk, -⟩ := mem_mergeSlots_of_mem_current (B := B) hx
    exact ⟨e, he, hk⟩

theorem mem_slots_mergeSlots {B C : List (Slot × EntityState)} {s : Slot} :
    s ∈ (mergeSlots B C).map Prod.fst ↔ s ∈ B.map Prod.fst ∨ s ∈ C.map Prod.fst := by
  simp only [List.mem_map]
  constructor
  · rintro ⟨e, he, rfl⟩
    rcases mergeSlots_mem he with ⟨v, hv⟩ | ⟨v, hv⟩
    · exact .inl ⟨_, hv, rfl⟩
    · exact .inr ⟨_, hv, rfl⟩
  · intro hs
    obtain ⟨x, hx, rfl⟩ : ∃ x ∈ B ++ C, x.1 = s := by
      rcases hs with ⟨x, hx, hk⟩ | ⟨x, hx, hk⟩
      · exact ⟨x, List.mem_append_left _ hx, hk⟩
      · exact ⟨x, List.mem_append_right _ hx, hk⟩
    exact exists_mem_mergeSlots_of_mem_append hx

/-- The walk over two snapshots listed by ascending slot meets every slot that either holds, and
no other, exactly once, in ascending order, each with the states the two hold there. -/
theorem mergeSlots_walks_union {B C : Snapshot} :
    let walk := mergeSlots B.entities C.entities
    (∀ s : Slot, (walk.map Prod.fst).count s = if s ∈ B.slots ∨ s ∈ C.slots then 1 else 0) ∧
      walk.Pairwise (fun a b => a.1.toNat < b.1.toNat) ∧
      ∀ e ∈ walk, e.2 = (B.get? e.1, C.get? e.1) := by
  intro walk
  have hasc : walk.Pairwise (fun a b => a.1.toNat < b.1.toNat) :=
    mergeSlots_pairwise B.ascending C.ascending
  -- slots with distinct numbers are distinct, so the walk meets no slot twice
  have hnodup : (walk.map Prod.fst).Nodup := by
    rw [List.Nodup, List.pairwise_map]
    exact hasc.imp fun hlt heq => Nat.ne_of_lt hlt (congrArg Slot.toNat heq)
  refine ⟨fun s => ?_, hasc, fun e he => ?_⟩
  · split
    · next hs => exact List.count_eq_one_of_mem hnodup (mem_slots_mergeSlots.mpr hs)
    · next hs => exact List.count_eq_zero.mpr fun h => hs (mem_slots_mergeSlots.mp h)
  · obtain ⟨hb, hc⟩ := mergeSlots_get B.tick B.ascending C.ascending e he
    exact Prod.ext hb.symm hc.symm

/-- The units before and after: slot 3 on both sides, then slot 5 that left, then slot 9 that
came. -/
theorem mergeSlots_walks_units :
    let walk := mergeSlots unitsBefore.entities unitsAfter.entities
    (∀ s : Slot, (walk.map Prod.fst).count s =
        if s ∈ unitsBefore.slots ∨ s ∈ unitsAfter.slots then 1 else 0) ∧
      walk.Pairwise (fun a b => a.1.toNat < b.1.toNat) ∧
      ∀ e ∈ walk, e.2 = (unitsBefore.get? e.1, unitsAfter.get? e.1) :=
  mergeSlots_walks_union (B := unitsBefore) (C := unitsAfter)

/-- The encoder accepts every slot of the walk exactly when it may encode the change. -/
theorem forall_slotEncodable_iff {B C : Snapshot} :
    (∀ e ∈ mergeSlots B.entities C.entities, SlotEncodable schema limits e) ↔
      BodyEncodable schema limits B C := by
  have hget : ∀ e ∈ mergeSlots B.entities C.entities, C.get? e.1 = e.2.2 :=
    fun e he => (mergeSlots_get B.tick B.ascending C.ascending e he).2
  constructor
  · intro hall
    refine ⟨fun x hx => ?_, fun x hx => ?_, fun x hx hcur => ?_⟩
    · obtain ⟨e, he, hk⟩ := exists_mem_mergeSlots_of_mem_append hx
      exact hk ▸ (hall e he).1
    · obtain ⟨e, he, -, hc⟩ := mem_mergeSlots_of_mem_current (B := B.entities) hx
      exact ((hall e he).2 x.2 hc).1
    · obtain ⟨e, he, hk, hb⟩ := mem_mergeSlots_of_mem_baseline (C := C.entities) hx
      obtain ⟨c, hc⟩ := Option.ne_none_iff_exists'.mp hcur
      have hec : e.2.2 = some c := by rw [← hget e he, hk, hc]
      exact ((hall e he).2 c hec).2 x.2 hb
  · rintro ⟨hslots, hcur, hbase⟩ e he
    refine ⟨?_, fun c hc => ⟨hcur _ (mem_current_of_mem_mergeSlots he hc), fun b hb =>
      hbase _ (mem_baseline_of_mem_mergeSlots he hb) (by simp [hget e he, Option.mem_def.mp hc])⟩⟩
    rcases mergeSlots_some _ _ e he with hb | hc
    · obtain ⟨b, hb⟩ := Option.isSome_iff_exists.mp hb
      exact hslots _ (List.mem_append_left _ (mem_baseline_of_mem_mergeSlots he hb))
    · obtain ⟨c, hc⟩ := Option.isSome_iff_exists.mp hc
      exact hslots _ (List.mem_append_right _ (mem_current_of_mem_mergeSlots he hc))

/-! ## Snapshots equal once quantized -/

theorem FieldValue.bytesAs_eq_of_quantize_eq {k : FieldKind} {v b : FieldValue}
    (h : v.quantize k = b.quantize k) : v.bytesAs k = b.bytesAs k := by
  cases k
  case float c =>
    cases v <;> cases b <;> simp_all [FieldValue.quantize, FieldValue.bytesAs]
  all_goals simp only [FieldValue.quantize] at h; rw [h]

theorem not_mem_changeFlags_of_quantize_eq {fs : List Field} {bs vs : List FieldValue}
    (h : List.zipWith (fun f b => b.quantize f.kind) fs bs =
      List.zipWith (fun f v => v.quantize f.kind) fs vs) :
    true ∉ changeFlags fs bs vs := by
  fun_induction changeFlags fs bs vs with
  | case1 f fs b bs v vs ih =>
    simp only [List.zipWith_cons_cons, List.cons.injEq] at h
    simp [FieldValue.bytesAs_eq_of_quantize_eq h.1.symm, ih h.2]
  | case2 => simp

/-- Entity lists equal once quantized merge slot by slot, each slot with a state on both sides,
the two equal once quantized. -/
theorem mergeSlots_of_quantized_eq {B C : List (Slot × EntityState)}
    (h : B.map (fun e => (e.1, e.2.quantized schema)) = C.map (fun e => (e.1, e.2.quantized schema))) :
    ∀ e ∈ mergeSlots B C, ∃ b c, e.2 = (some b, some c) ∧ b.quantized schema = c.quantized schema := by
  fun_induction mergeSlots B C with
  | case1 => simp
  | case2 k v bs ih => simp at h
  | case3 k v cs ih => simp at h
  | case4 k v bs k' v' cs hlt ih =>
    simp only [List.map_cons, List.cons.injEq, Prod.mk.injEq] at h
    exact absurd hlt (by rw [h.1.1]; exact Nat.lt_irrefl _)
  | case5 k v bs k' v' cs hnlt hlt ih =>
    simp only [List.map_cons, List.cons.injEq, Prod.mk.injEq] at h
    exact absurd hlt (by rw [h.1.1]; exact Nat.lt_irrefl _)
  | case6 k v bs k' v' cs hnlt hnlt' ih =>
    simp only [List.map_cons, List.cons.injEq, Prod.mk.injEq] at h
    exact List.forall_mem_cons.mpr ⟨⟨v, v', rfl, h.1.2⟩, ih h.2⟩

theorem bodyEntries_eq_nil_of_quantized_eq {B C : Snapshot}
    (h : (B.quantized schema).entities = (C.quantized schema).entities) : bodyEntries schema B C = [] := by
  rw [bodyEntries, List.filterMap_eq_nil_iff]
  intro e he
  obtain ⟨b, c, he2, hq⟩ := mergeSlots_of_quantized_eq (by simpa [Snapshot.quantized] using h) e he
  obtain ⟨slot, base, cur⟩ := e
  obtain ⟨rfl, rfl⟩ := Prod.mk.inj he2
  simp only [EntityState.quantized, EntityState.mk.injEq] at hq
  simp [bodyEntry, not_mem_changeFlags_of_quantize_eq hq]

/-! ## The layout -/

/-- Snapshot body layout: the walk over both snapshots, when the encoder succeeds and what it
appends, and the single byte 0 for snapshots equal once quantized. -/
theorem encodeBody_layout {B C : Snapshot} (hvalid : schema.validate = .ok ()) (out : Buffer)
    (hcap : out.capacity < maxSize) :
    ((∀ e ∈ mergeSlots B.entities C.entities, B.get? e.1 = e.2.1 ∧ C.get? e.1 = e.2.2) ∧
      (∀ x ∈ B.entities ++ C.entities, ∃ e ∈ mergeSlots B.entities C.entities, e.1 = x.1) ∧
      (mergeSlots B.entities C.entities).Pairwise (fun a b => a.1.toNat < b.1.toNat)) ∧
    ((∃ n out', (encodeBody schema B C limits).run out = .ok n out') ↔
      BodyEncodable schema limits B C ∧ (bodyEntries schema B C).length ≤ limits.maxEntries ∧
        varintLen (bodyEntries schema B C).length + (bodyEntries schema B C).flatten.length ≤
          out.free) ∧
    (∀ n out', (encodeBody schema B C limits).run out = .ok n out' →
      n = (bodyBytes schema B C).length ∧ out' = out.appended (bodyBytes schema B C)) ∧
    ((B.quantized schema).entities = (C.quantized schema).entities →
      ∀ n out', (encodeBody schema B C limits).run out = .ok n out' →
        n = 1 ∧ out' = out.appended [0]) := by
  have hrun : ∀ n out', (encodeBody schema B C limits).run out = .ok n out' →
      n = (bodyBytes schema B C).length ∧ out' = out.appended (bodyBytes schema B C) := by
    intro n out' h
    obtain ⟨hok, hmax, hfree⟩ := encodeBody_eq_ok_encodable hvalid hcap h
    rw [encodeBody_run_of_encodable hvalid hcap hok hmax hfree] at h
    cases h
    exact ⟨rfl, rfl⟩
  refine ⟨⟨mergeSlots_get B.tick B.ascending C.ascending, fun _ => exists_mem_mergeSlots_of_mem_append,
    mergeSlots_pairwise B.ascending C.ascending⟩, ⟨?_, ?_⟩, hrun, ?_⟩
  · rintro ⟨n, out', h⟩
    obtain ⟨hok, hmax, hfree⟩ := encodeBody_eq_ok_encodable hvalid hcap h
    exact ⟨forall_slotEncodable_iff.mp hok, hmax, length_bodyBytes schema B C ▸ hfree⟩
  · rintro ⟨henc, hmax, hfree⟩
    exact ⟨_, _, encodeBody_run_of_encodable hvalid hcap (forall_slotEncodable_iff.mpr henc)
      hmax (by rw [length_bodyBytes]; exact hfree)⟩
  · intro hq n out' h
    obtain ⟨rfl, rfl⟩ := hrun n out' h
    have hzero : encodeVarint 0 = [0] := by decide +kernel
    simp [bodyBytes, bodyEntries_eq_nil_of_quantized_eq hq, hzero]

/-- The units at slots 3 and 5, encoded against themselves. -/
theorem encodeBody_layout_unchanged :
    unitSchema.validate = .ok () ∧ (Buffer.empty 64).capacity < maxSize ∧
      (encodeBody unitSchema unitsBefore unitsBefore CodecLimits.standard).run (Buffer.empty 64) =
        .ok 1 ((Buffer.empty 64).appended [0]) := by
  have hvalid : unitSchema.validate = .ok () := by decide
  have hcap : (Buffer.empty 64).capacity < maxSize := by decide
  obtain ⟨-, hiff, -, hsame⟩ := @encodeBody_layout unitSchema CodecLimits.standard unitsBefore
    unitsBefore hvalid (Buffer.empty 64) hcap
  obtain ⟨n, out', h⟩ := hiff.mpr ⟨⟨by decide, by decide, by decide⟩, by decide +kernel,
    by decide +kernel⟩
  obtain ⟨rfl, rfl⟩ := hsame rfl n out' h
  exact ⟨hvalid, hcap, h⟩

end EntitySync
