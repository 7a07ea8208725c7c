import EntitySync.Proofs.PrefixCode
import EntitySync.Proofs.FieldGrammar
import EntitySync.Proofs.Body
/-!
# Snapshot bodies delimit themselves

A snapshot body, an entity entry and a field block each end where their reader stops: no byte
string one of these readers accepts is a proper prefix of another. So a body that was cut short
is refused rather than read as some other body, and so is a body with anything after it.

The byte-level reads take prefix codes (`Proofs/PrefixCode.lean`). The field-block reader keeps
its first failure instead of returning it, so its steps get their own form of the property
(`FieldBlock.Reader.PrefixStep`): a step that ends without a failure took bytes from the front,
did what it did because of those bytes alone, and cut short inside them it fails. Steps run one
after another keep it (`PrefixStep.seq`), and so the whole block does (`prefixCode_decodeFields`).
An entity entry and the entries of a body are sequences of such reads (`prefixCode_decodeEntity`,
`prefixCode_decodeBodyEntries`). The body reader then refuses bytes left after its entries.

`snapshot_bodies_prefix_free`: a body that decodes has no proper prefix and no proper extension
that decodes, and the field-block and entity-entry readers take prefix-free byte strings, for
every schema, baseline, tick and set of limits.
-/

namespace EntitySync

namespace FieldBlock.Reader

/-- The reader with `u` left to read, at the same position. -/
def withRest (r : Reader) (u : Bytes) : Reader := { r with cursor := ⟨u, r.cursor.pos⟩ }

variable {β γ : Type} {r : Reader} {u : Bytes}

theorem withRest_cursor : (r.withRest u).cursor = ⟨u, r.cursor.pos⟩ := rfl

@[simp] theorem withRest_rest : (r.withRest u).cursor.rest = u := rfl

@[simp] theorem withRest_error : (r.withRest u).error = r.error := rfl

@[simp] theorem withRest_withRest (v : Bytes) : (r.withRest u).withRest v = r.withRest v := rfl

@[simp] theorem finish_withRest : (r.withRest u).finish = r.finish := rfl

@[simp] theorem setError_withRest (e : StreamError) :
    (r.withRest u).setError e = (r.setError e).withRest u := by
  unfold setError
  rw [withRest_error]
  split_ifs <;> rfl

@[simp] theorem getBit_withRest : (r.withRest u).getBit = (r.getBit.1, r.getBit.2.withRest u) := by
  unfold getBit
  rw [withRest_error, setError_withRest]
  split_ifs
  · rfl
  · cases hf : r.flags[r.consumed]? <;> simp [withRest, declared, hf]

/-- A step of the field-block reader that reads a prefix code. It keeps a failure as it was; a
step that ends without one took bytes from the front, did what it did because of them alone,
and, cut short inside them, fails. -/
structure PrefixStep (step : Reader → β × Reader) : Prop where
  sticky : ∀ {r : Reader}, r.error.isSome → (step r).2 = r
  advance : ∀ {r : Reader}, (step r).2.error = none →
    ∃ q, r.cursor.rest = q ++ (step r).2.cursor.rest
  frame : ∀ {r : Reader} {q x y : Bytes}, (step r).2.error = none → r.cursor.rest = q ++ x →
    (step r).2.cursor.rest = x → step (r.withRest (q ++ y)) = ((step r).1, (step r).2.withRest y)
  cut : ∀ {r : Reader} {u t : Bytes}, (step r).2.error = none → r.cursor.rest = u ++ t →
    (step r).2.cursor.rest.length < t.length → (step (r.withRest u)).2.error.isSome

namespace PrefixStep

variable {step : Reader → β × Reader}

theorem error_eq_none (h : PrefixStep step) (hc : (step r).2.error = none) : r.error = none := by
  by_contra hne
  rw [h.sticky (Option.isSome_iff_ne_none.mpr hne)] at hc
  exact hne hc

/-- Cut after some point, a step either took only bytes before it, and reads them the same way,
or took bytes after it, and fails. -/
theorem cut_or_frame (h : PrefixStep step) {t : Bytes} (hc : (step r).2.error = none)
    (hr : r.cursor.rest = u ++ t) :
    (∃ w, (step r).2.cursor.rest = w ++ t ∧
        step (r.withRest u) = ((step r).1, (step r).2.withRest w)) ∨
      ((step r).2.cursor.rest.length < t.length ∧ (step (r.withRest u)).2.error.isSome) := by
  by_cases hlt : (step r).2.cursor.rest.length < t.length
  · exact .inr ⟨hlt, h.cut hc hr hlt⟩
  · obtain ⟨q, hq⟩ := h.advance hc
    obtain ⟨w, rfl, hw⟩ := exists_append_of_length_le (hr.symm.trans hq) (Nat.le_of_not_lt hlt)
    exact .inl ⟨w, hw, h.frame hc (by rw [hr, List.append_assoc]) hw⟩

theorem seq {s₁ : Reader → β × Reader} {s₂ : β → Reader → γ × Reader} (h₁ : PrefixStep s₁)
    (h₂ : ∀ b, PrefixStep (s₂ b)) : PrefixStep fun r => s₂ (s₁ r).1 (s₁ r).2 where
  sticky {r} hr := by
    show (s₂ (s₁ r).1 (s₁ r).2).2 = r
    rw [(h₂ _).sticky (by rw [h₁.sticky hr]; exact hr), h₁.sticky hr]
  advance {r} hc := by
    obtain ⟨q₁, hq₁⟩ := h₁.advance ((h₂ _).error_eq_none hc)
    obtain ⟨q₂, hq₂⟩ := (h₂ _).advance hc
    exact ⟨q₁ ++ q₂, by rw [hq₁, hq₂, List.append_assoc]⟩
  frame {r q x y} hc hr hx := by
    have hc₁ := (h₂ _).error_eq_none hc
    obtain ⟨q₂, hq₂⟩ := (h₂ _).advance hc
    rw [hx] at hq₂
    obtain ⟨q₁, hq₁⟩ := h₁.advance hc₁
    -- the second step took what the first one left of `q`
    obtain rfl : q = q₁ ++ q₂ :=
      List.append_cancel_right (by rw [List.append_assoc, ← hq₂, ← hq₁, hr])
    have e₁ := h₁.frame (y := q₂ ++ y) hc₁ (by rw [hr, List.append_assoc]) hq₂
    have e₂ := (h₂ (s₁ r).1).frame (y := y) hc hq₂ hx
    show s₂ (s₁ (r.withRest (q₁ ++ q₂ ++ y))).1 (s₁ (r.withRest (q₁ ++ q₂ ++ y))).2 = _
    rw [List.append_assoc, e₁]
    exact e₂
  cut {r u t} hc hr hlt := by
    show (s₂ (s₁ (r.withRest u)).1 (s₁ (r.withRest u)).2).2.error.isSome
    rcases h₁.cut_or_frame ((h₂ _).error_eq_none hc) hr with ⟨w, hw, e₁⟩ | ⟨-, he⟩
    · rw [e₁]
      exact (h₂ _).cut hc hw hlt
    · rw [(h₂ _).sticky he]
      exact he

theorem of_cursor_free (hsticky : ∀ {r : Reader}, r.error.isSome → (step r).2 = r)
    (hcur : ∀ {r : Reader}, (step r).2.cursor = r.cursor)
    (hwith : ∀ {r : Reader} {u : Bytes}, step (r.withRest u) = ((step r).1, (step r).2.withRest u)) :
    PrefixStep step where
  sticky := hsticky
  advance _ := ⟨[], by rw [hcur]; rfl⟩
  frame {r q x y} _ hr hx := by
    rw [hcur] at hx
    obtain rfl : q = [] := List.append_cancel_right ((hr.symm.trans hx).trans (List.nil_append x).symm)
    exact hwith
  cut {r u t} _ hr hlt := by
    rw [hcur, hr, List.length_append] at hlt
    omega

theorem ret (b : β) : PrefixStep fun r => (b, r) :=
  of_cursor_free (fun _ => rfl) rfl rfl

theorem fail (b : β) (e : StreamError) : PrefixStep fun r => (b, r.setError e) :=
  of_cursor_free (fun hr => setError_of_error hr e) (by intro r; unfold setError; split <;> rfl)
    (by intro r u; rw [setError_withRest])

theorem of_read {read : Cursor → Except StreamError (β × Cursor)} (h : PrefixCode read)
    (hsticky : ∀ {r : Reader}, r.error.isSome → (step r).2 = r)
    (hok : ∀ {r : Reader} {b : β} {c : Cursor}, r.error = none → read r.cursor = .ok (b, c) →
      step r = (b, { r with cursor := c }))
    (hbad : ∀ {r : Reader} {e : StreamError}, r.error = none → read r.cursor = .error e →
      (step r).2.error.isSome) : PrefixStep step :=
  have clean : ∀ {r : Reader}, (step r).2.error = none →
      ∃ b c, r.error = none ∧ read r.cursor = .ok (b, c) ∧ step r = (b, { r with cursor := c }) := by
    intro r hc
    have hr : r.error = none := by
      by_contra hne
      rw [hsticky (Option.isSome_iff_ne_none.mpr hne)] at hc
      exact hne hc
    match hread : read r.cursor with
    | .ok (b, c) => exact ⟨b, c, hr, rfl, hok hr hread⟩
    | .error e =>
      have hsome := hbad hr hread
      rw [hc] at hsome
      cases hsome
  { sticky := hsticky
    advance := fun hc => by
      obtain ⟨b, c, -, hread, hs⟩ := clean hc
      rw [hs]
      exact h.advance hread
    frame := fun {r q x y} hc hr hx => by
      obtain ⟨b, c, he, hread, hs⟩ := clean hc
      rw [hs] at hx ⊢
      have hread' : read ⟨q ++ x, r.cursor.pos⟩ = .ok (b, ⟨x, c.pos⟩) := by
        rw [← hr, ← hx]
        exact hread
      exact hok (r := r.withRest (q ++ y)) he (h.frame hread')
    cut := fun {r u t} hc hr hlt => by
      obtain ⟨b, c, he, hread, hs⟩ := clean hc
      rw [hs] at hlt
      have hread' : read ⟨u ++ t, r.cursor.pos⟩ = .ok (b, c) := by
        rw [← hr]
        exact hread
      obtain ⟨e, he'⟩ := h.cut hread' hlt
      exact hbad (r := r.withRest u) he he' }

end PrefixStep

/-! ## Opening a block -/

/-- The count and the mask at the front of a block, read as a prefix code: the flags they
declare. -/
def header (c : Cursor) (maxFields : Nat) : Except StreamError (List Bool × Cursor) := do
  let (declared, c) ← c.readVarU32
  if min maxFields maxBlockFields < declared then
    throw (.fieldCountExceeded declared (min maxFields maxBlockFields))
  let (mask, c) ← c.take (maskLen declared)
  pure ((unpackMask mask).take declared, c)

/-- A fresh reader at a cursor, before the block is opened. -/
def atCursor (c : Cursor) : Reader := ⟨c, [], 0, none⟩

/-- Opening the block at the reader's cursor, as a step of the reader. -/
def beginStep (maxFields : Nat) (r : Reader) : Unit × Reader :=
  if r.error.isSome then ((), r) else ((), begin r.cursor maxFields)

theorem prefixCode_header (maxFields : Nat) : PrefixCode fun c => header c maxFields := by
  unfold header
  refine PrefixCode.bind Cursor.prefixCode_readVarU32 fun declared => ?_
  by_cases hlim : min maxFields maxBlockFields < declared
  · simp only [hlim, if_true]
    exact PrefixCode.of_throw _
  · simp only [hlim, if_false]
    exact (Cursor.prefixCode_take _).bind fun mask =>
      PrefixCode.of_pure ((unpackMask mask).take declared)

/-- Opening a block is reading its header: it opens with the flags the header declares, or
fails where the header does. -/
theorem begin_cases (c : Cursor) (maxFields : Nat) :
    (∃ fl c', header c maxFields = .ok (fl, c') ∧ begin c maxFields = ⟨c', fl, 0, none⟩) ∨
      (∃ e, header c maxFields = .error e ∧ (begin c maxFields).error.isSome) := by
  unfold header begin
  rcases hv : c.readVarU32 with e | ⟨declared, c₁⟩
  · exact .inr ⟨e, rfl, rfl⟩
  by_cases hlim : min maxFields maxBlockFields < declared
  · exact .inr ⟨.fieldCountExceeded declared (min maxFields maxBlockFields),
      by simp [hlim, bind, Except.bind, throw, throwThe, MonadExceptOf.throw], by simp [hlim]⟩
  rcases ht : c₁.take (maskLen declared) with e | ⟨mask, c₂⟩
  · exact .inr ⟨e, by simp [hlim, ht, bind, Except.bind], by simp [hlim, ht]⟩
  · exact .inl ⟨(unpackMask mask).take declared, c₂,
      by simp [hlim, ht, bind, Except.bind, pure, Except.pure], by simp [hlim, ht]⟩

theorem begin_of_header {c c' : Cursor} {maxFields : Nat} {fl : List Bool}
    (h : header c maxFields = .ok (fl, c')) : begin c maxFields = ⟨c', fl, 0, none⟩ := by
  rcases begin_cases c maxFields with ⟨fl', c'', hh, hb⟩ | ⟨e, he, -⟩
  · rw [h] at hh
    cases hh
    exact hb
  · rw [h] at he
    cases he

theorem begin_error_of_header {c : Cursor} {maxFields : Nat} {e : StreamError}
    (h : header c maxFields = .error e) : (begin c maxFields).error.isSome := by
  rcases begin_cases c maxFields with ⟨fl, c', hh, -⟩ | ⟨e', -, he⟩
  · rw [h] at hh
    cases hh
  · exact he

theorem beginStep_of_error_eq_none {maxFields : Nat} (h : r.error = none) :
    beginStep maxFields r = ((), begin r.cursor maxFields) := by
  simp [beginStep, h]

theorem beginStep_eq_clean {maxFields : Nat} (hc : (beginStep maxFields r).2.error = none) :
    r.error = none ∧ ∃ fl c', header r.cursor maxFields = .ok (fl, c') ∧
      beginStep maxFields r = ((), ⟨c', fl, 0, none⟩) := by
  have hr : r.error = none := by
    by_contra hne
    simp only [beginStep, Option.isSome_iff_ne_none.mpr hne, if_true] at hc
    exact hne hc
  rw [beginStep_of_error_eq_none hr] at hc ⊢
  rcases begin_cases r.cursor maxFields with ⟨fl, c', hh, hb⟩ | ⟨e, -, he⟩
  · exact ⟨hr, fl, c', hh, by rw [hb]⟩
  · rw [hc] at he
    cases he

theorem prefixStep_beginStep (maxFields : Nat) : PrefixStep (beginStep maxFields) where
  sticky hr := by simp [beginStep, hr]
  advance {r} hc := by
    obtain ⟨-, fl, c', hh, hs⟩ := beginStep_eq_clean hc
    rw [hs]
    exact (prefixCode_header maxFields).advance hh
  frame {r q x y} hc hr hx := by
    obtain ⟨he, fl, c', hh, hs⟩ := beginStep_eq_clean hc
    rw [hs] at hx ⊢
    have hh' : header ⟨q ++ x, r.cursor.pos⟩ maxFields = .ok (fl, ⟨x, c'.pos⟩) := by
      rw [← hr, ← hx]
      exact hh
    rw [beginStep_of_error_eq_none (r := r.withRest (q ++ y)) he, withRest_cursor,
      begin_of_header ((prefixCode_header maxFields).frame hh')]
    rfl
  cut {r u t} hc hr hlt := by
    obtain ⟨he, fl, c', hh, hs⟩ := beginStep_eq_clean hc
    rw [hs] at hlt
    have hh' : header ⟨u ++ t, r.cursor.pos⟩ maxFields = .ok (fl, c') := by
      rw [← hr]
      exact hh
    obtain ⟨e, he'⟩ := (prefixCode_header maxFields).cut hh' hlt
    rw [beginStep_of_error_eq_none (r := r.withRest u) he, withRest_cursor]
    exact begin_error_of_header he'

theorem prefixStep_getBit : PrefixStep getBit :=
  PrefixStep.of_cursor_free (fun hr => by rw [getBit_of_error hr])
    (by intro r; unfold getBit setError; split_ifs <;> (try split) <;> rfl)
    getBit_withRest

theorem prefixStep_getBytes (n : Nat) : PrefixStep fun r : Reader => r.getBytes n :=
  PrefixStep.of_read (Cursor.prefixCode_take n) (fun hr => by rw [getBytes_of_error hr n])
    (fun hr ht => by simp [getBytes, hr, ht])
    (fun hr ht => by simp [getBytes, hr, ht, setError])

theorem prefixStep_getString (maxLen : Nat) : PrefixStep fun r : Reader => r.getString maxLen :=
  PrefixStep.of_read (Cursor.prefixCode_readString maxLen)
    (fun hr => by rw [getString_of_error hr maxLen])
    (fun hr ht => by simp [getString, hr, ht])
    (fun hr ht => by simp [getString, hr, ht, setError])

/-! ## Finishing a block -/

section Finish

variable {ε α : Type} {p : β × Reader} {g : StreamError → ε} {f : β → α} {a : α} {c : Cursor}

theorem finish_bind_eq_ok :
    (p.2.finish.mapError g >>= fun _ => pure (f p.1, p.2.cursor) : Except ε (α × Cursor)) =
        .ok (a, c) ↔ p.2.finish = .ok () ∧ a = f p.1 ∧ c = p.2.cursor := by
  cases hfin : p.2.finish with
  | error e => simp [Except.mapError, bind, Except.bind]
  | ok u => simp [Except.mapError, bind, Except.bind, pure, Except.pure, eq_comm]

theorem finish_bind_of_error (h : p.2.error.isSome) :
    ∃ e, (p.2.finish.mapError g >>= fun _ => pure (f p.1, p.2.cursor) : Except ε (α × Cursor)) =
      .error e := by
  obtain ⟨e, he⟩ := Option.isSome_iff_exists.mp h
  exact ⟨g e, by simp [finish, he, Except.mapError, bind, Except.bind]⟩

end Finish

/-- A step run on a fresh reader and then finished reads a prefix code: finishing looks at the
flags and the kept failure, not at the bytes left. -/
theorem PrefixStep.prefixCode_finish {ε α : Type} {step : Reader → β × Reader} (h : PrefixStep step)
    (g : StreamError → ε) (f : β → α) :
    PrefixCode fun c => ((step (atCursor c)).2.finish.mapError g >>= fun _ =>
      pure (f (step (atCursor c)).1, (step (atCursor c)).2.cursor) : Except ε (α × Cursor)) where
  advance {c a c'} hr := by
    obtain ⟨hfin, -, rfl⟩ := finish_bind_eq_ok.mp hr
    exact h.advance (finish_error_eq_none hfin)
  frame {q x y n m a} hr := by
    obtain ⟨hfin, rfl, hc⟩ := finish_bind_eq_ok.mp hr
    have e := h.frame (r := atCursor ⟨q ++ x, n⟩) (y := y) (finish_error_eq_none hfin) rfl
      (by rw [← hc])
    change step (atCursor ⟨q ++ y, n⟩) = _ at e
    refine finish_bind_eq_ok.mpr ⟨?_, ?_, ?_⟩
    · rw [e, finish_withRest, hfin]
    · rw [e]
    · rw [e, withRest_cursor, ← hc]
  cut {u t n a c'} hr hlt := by
    obtain ⟨hfin, rfl, rfl⟩ := finish_bind_eq_ok.mp hr
    exact finish_bind_of_error (h.cut (r := atCursor ⟨u ++ t, n⟩) (finish_error_eq_none hfin) rfl hlt)

end FieldBlock.Reader

open FieldBlock FieldBlock.Reader

theorem prefixStep_getBytes_map (n : Nat) (f : Bytes → β) :
    PrefixStep fun r : FieldBlock.Reader => (f (r.getBytes n).1, (r.getBytes n).2) :=
  @PrefixStep.seq _ _ (fun r => r.getBytes n) (fun bs r => (f bs, r)) (prefixStep_getBytes n)
    fun _ => PrefixStep.ret _

theorem prefixStep_readValue (k : FieldKind) : PrefixStep (readValue k) := by
  show PrefixStep fun r => readValue k r
  cases k <;> dsimp only [readValue]
  case bool =>
    refine @PrefixStep.seq _ _ (fun r => r.getBytes 1)
      (fun bs r => (FieldValue.bool (ofLE bs == 1),
        if 1 < ofLE bs then r.setError (.rangeViolation (ofLE bs) 2) else r))
      (prefixStep_getBytes 1) fun bs => ?_
    by_cases hb : 1 < ofLE bs
    · simp only [hb, if_true]
      exact PrefixStep.fail _ _
    · simp only [hb, if_false]
      exact PrefixStep.ret _
  case u8 => exact prefixStep_getBytes_map 1 fun bs => FieldValue.u8 (UInt8.ofNat (ofLE bs))
  case u16 => exact prefixStep_getBytes_map 2 fun bs => FieldValue.u16 (UInt16.ofNat (ofLE bs))
  case u32 => exact prefixStep_getBytes_map 4 fun bs => FieldValue.u32 (UInt32.ofNat (ofLE bs))
  case u64 => exact prefixStep_getBytes_map 8 fun bs => FieldValue.u64 (UInt64.ofNat (ofLE bs))
  case i8 => exact prefixStep_getBytes_map 1 fun bs => FieldValue.i8 (Int8.ofInt (signedOf 1 (ofLE bs)))
  case i16 =>
    exact prefixStep_getBytes_map 2 fun bs => FieldValue.i16 (Int16.ofInt (signedOf 2 (ofLE bs)))
  case i32 =>
    exact prefixStep_getBytes_map 4 fun bs => FieldValue.i32 (Int32.ofInt (signedOf 4 (ofLE bs)))
  case i64 =>
    exact prefixStep_getBytes_map 8 fun bs => FieldValue.i64 (Int64.ofInt (signedOf 8 (ofLE bs)))
  case float c => exact prefixStep_getBytes_map c.wireSize fun bs => FieldValue.f32 (c.fromBits (ofLE bs))
  case enum variants =>
    refine @PrefixStep.seq _ _ (fun r => r.getBytes (enumWidth variants))
      (fun bs r => if variants ≤ ofLE bs then (FieldValue.enum 0, r.setError (.rangeViolation (ofLE bs) variants))
        else (FieldValue.enum (UInt32.ofNat (ofLE bs)), r))
      (prefixStep_getBytes _) fun bs => ?_
    by_cases hv : variants ≤ ofLE bs
    · simp only [hv, if_true]
      exact PrefixStep.fail _ _
    · simp only [hv, if_false]
      exact PrefixStep.ret _
  case str maxLen =>
    exact @PrefixStep.seq _ _ (fun r => r.getString maxLen) (fun s r => (FieldValue.str s, r))
      (prefixStep_getString maxLen) fun _ => PrefixStep.ret _

/-- The flagged leaves of a block are read one after another, each a flag and, when it is set,
the leaf. -/
theorem prefixStep_readFlagged : ∀ (fs : List Field) (vs : List FieldValue),
    PrefixStep (readFlagged fs vs)
  | f :: fs, v :: vs => by
    show PrefixStep fun r => readFlagged (f :: fs) (v :: vs) r
    dsimp only [readFlagged]
    refine @PrefixStep.seq _ _ getBit
      (fun flag r => ((if flag then readValue f.kind r else (v, r)).1 ::
        (readFlagged fs vs (if flag then readValue f.kind r else (v, r)).2).1,
        (readFlagged fs vs (if flag then readValue f.kind r else (v, r)).2).2))
      prefixStep_getBit fun flag => ?_
    refine @PrefixStep.seq _ _ (fun r => if flag then readValue f.kind r else (v, r))
      (fun v r => (v :: (readFlagged fs vs r).1, (readFlagged fs vs r).2)) ?_ fun v => ?_
    · cases flag
      · exact PrefixStep.ret v
      · exact prefixStep_readValue f.kind
    · exact @PrefixStep.seq _ _ (readFlagged fs vs) (fun vs r => (v :: vs, r))
        (prefixStep_readFlagged fs vs) fun _ => PrefixStep.ret _
  | [], _ => PrefixStep.ret _
  | _ :: _, [] => PrefixStep.ret _

/-- A field block reads a prefix code: its count, its mask and the payloads of its flagged
leaves. -/
theorem prefixCode_decodeFields (schema : Schema) (baseline : Option EntityState) :
    PrefixCode (decodeFields schema baseline) := by
  show PrefixCode fun c => decodeFields schema baseline c
  dsimp only [decodeFields]
  rcases baseState schema baseline with e | start
  · exact PrefixCode.of_throw e
  · exact (PrefixStep.seq (prefixStep_beginStep schema.len) fun _ =>
      prefixStep_readFlagged schema.fields start.values).prefixCode_finish CodecError.stream
        EntityState.mk

/-- An entity entry reads a prefix code: its exists byte and, for a present entity, its field
block. -/
theorem prefixCode_decodeEntity (schema : Schema) (baseline : Option EntityState) :
    PrefixCode (decodeEntity schema baseline) := by
  unfold decodeEntity
  refine PrefixCode.bind ((Cursor.prefixCode_readUInt 1).mapError _) fun tag => ?_
  rcases tag with _ | _ | tag
  · exact PrefixCode.of_pure none
  · exact (prefixCode_decodeFields schema baseline).bind fun st => PrefixCode.of_pure (some st)
  · exact PrefixCode.of_throw _

/-- The entries of a body read a prefix code, whatever the slots read so far: each entry is a
slot varint, checks on it, and an entity entry. -/
theorem prefixCode_decodeBodyEntries (schema : Schema) (baseline : Snapshot) (limits : CodecLimits)
    (count : Nat) (prev : Option Nat) (acc : Snapshot) :
    PrefixCode (decodeBodyEntries schema baseline limits count prev acc) := by
  -- on the number of entries left; the slot read last and the snapshot so far change on the way
  induction count generalizing prev acc with
  | zero => exact PrefixCode.of_pure acc
  | succ count ih =>
    show PrefixCode fun c => decodeBodyEntries schema baseline limits (count + 1) prev acc c
    simp only [decodeBodyEntries]
    refine PrefixCode.bind (Cursor.prefixCode_readVarU32.mapError _) fun raw => ?_
    dsimp only
    rcases Slot.ofNat? raw with _ | slot
    · exact PrefixCode.of_throw _
    dsimp only
    by_cases hlim : limits.maxSlots ≤ slot.toNat
    · simp only [hlim, if_true]
      exact PrefixCode.of_throw _
    simp only [hlim, if_false]
    -- past the order check, whichever way it went, comes the entity entry
    rcases prev with _ | p
    case' some =>
      by_cases horder : slot.toNat ≤ p
      · simp only [horder, if_true]
        exact PrefixCode.of_throw _
      simp only [horder, if_false]
    all_goals
      refine PrefixCode.bind (prefixCode_decodeEntity _ _) fun st => ?_
      dsimp only
      rcases st with _ | st
      · rcases acc.erase slot with ⟨_ | _, acc'⟩
        · exact PrefixCode.of_throw _
        · exact ih _ _
      · exact ih _ _

/-- The count of a body and its entries, read on top of `baseline` at `tick`. -/
def readBodyEntries (schema : Schema) (baseline : Snapshot) (tick : Tick) (limits : CodecLimits)
    (c : Cursor) : Except CodecError (Snapshot × Cursor) := do
  let (count, c) ← c.readVarU32.mapError .stream
  if limits.maxEntries < count then throw (.limitExceeded .entries limits.maxEntries count)
  decodeBodyEntries schema baseline limits count none { baseline with tick := tick } c

theorem prefixCode_readBodyEntries (schema : Schema) (baseline : Snapshot) (tick : Tick)
    (limits : CodecLimits) : PrefixCode (readBodyEntries schema baseline tick limits) := by
  unfold readBodyEntries
  refine PrefixCode.bind (Cursor.prefixCode_readVarU32.mapError _) fun count => ?_
  by_cases hmax : limits.maxEntries < count
  · simp only [hmax, if_true]
    exact PrefixCode.of_throw _
  · simp only [hmax, if_false]
    exact prefixCode_decodeBodyEntries schema baseline limits count none _

theorem decodeBody_eq_bind (schema : Schema) (baseline : Snapshot) (body : Bytes) (tick : Tick)
    (limits : CodecLimits) :
    decodeBody schema baseline body tick limits =
      readBodyEntries schema baseline tick limits (Cursor.init body) >>= fun p => do
        if !p.2.rest.isEmpty then throw (.trailingSectionData .entities p.2.remaining)
        return p.1 := by
  simp only [decodeBody, readBodyEntries, bind_assoc]
  congr 1
  funext x
  split_ifs <;> simp only [bind_assoc]

section Body

variable {schema : Schema} {baseline : Snapshot} {tick : Tick} {limits : CodecLimits}

theorem readBodyEntries_of_decodeBody {body : Bytes} {S : Snapshot}
    (h : decodeBody schema baseline body tick limits = .ok S) :
    ∃ pos, readBodyEntries schema baseline tick limits (Cursor.init body) = .ok (S, ⟨[], pos⟩) := by
  rw [decodeBody_eq_bind, Except.bind_eq_ok] at h
  obtain ⟨⟨S', ⟨rest, pos⟩⟩, hr, h⟩ := h
  cases rest with
  | nil =>
    cases h
    exact ⟨pos, hr⟩
  | cons b rest => cases h

theorem decodeBody_of_readBodyEntries_error {body : Bytes} {e : CodecError}
    (h : readBodyEntries schema baseline tick limits (Cursor.init body) = .error e) :
    decodeBody schema baseline body tick limits = .error e := by
  rw [decodeBody_eq_bind, h]
  rfl

theorem decodeBody_of_trailing {body : Bytes} {S : Snapshot} {c : Cursor} (hc : c.rest ≠ [])
    (h : readBodyEntries schema baseline tick limits (Cursor.init body) = .ok (S, c)) :
    decodeBody schema baseline body tick limits =
      .error (.trailingSectionData .entities c.remaining) := by
  rw [decodeBody_eq_bind, h]
  simp [bind, Except.bind, hc, throw, throwThe, MonadExceptOf.throw]

end Body

/-- Snapshot bodies, field blocks and entity entries delimit themselves: no proper prefix or
extension of what such a read took is read the same way. -/
theorem snapshot_bodies_prefix_free (schema : Schema) (baseline : Snapshot) (tick : Tick)
    (limits : CodecLimits) :
    (∀ body S, decodeBody schema baseline body tick limits = .ok S →
      (∀ p, p <+: body → p ≠ body → ∃ e, decodeBody schema baseline p tick limits = .error e) ∧
        ∀ s, s ≠ [] → ∃ e, decodeBody schema baseline (body ++ s) tick limits = .error e) ∧
      (∀ b, PrefixFree (decodeFields schema b)) ∧ ∀ b, PrefixFree (decodeEntity schema b) := by
  refine ⟨fun body S h => ?_, fun b => (prefixCode_decodeFields schema b).prefixFree,
    fun b => (prefixCode_decodeEntity schema b).prefixFree⟩
  have hread := prefixCode_readBodyEntries schema baseline tick limits
  obtain ⟨pos, hr⟩ := readBodyEntries_of_decodeBody h
  have hq : (Cursor.init body).rest = body ++ [] := (List.append_nil body).symm
  constructor
  · intro p hp hne
    obtain ⟨e, he⟩ := hread.fails_of_prefix hr hq hp hne
    exact ⟨e, decodeBody_of_readBodyEntries_error he⟩
  · intro s hs
    exact ⟨_, decodeBody_of_trailing hs (hread.frame_append hr hq s)⟩

/-- The body of the change between two snapshots of units decodes; cut before its last byte it
does not, and neither does it with a byte more. -/
theorem snapshot_bodies_prefix_free_units :
    decodeBody unitSchema (unitsBefore.quantized unitSchema)
        [3, 3, 1, 3, 3, 90, 0, 0, 62, 5, 0, 9, 1, 3, 1, 1, 0] 7 CodecLimits.standard =
      .ok { unitsAfter.quantized unitSchema with tick := 7 } ∧
    (∃ e, decodeBody unitSchema (unitsBefore.quantized unitSchema)
        [3, 3, 1, 3, 3, 90, 0, 0, 62, 5, 0, 9, 1, 3, 1, 1] 7 CodecLimits.standard = .error e) ∧
    ∃ e, decodeBody unitSchema (unitsBefore.quantized unitSchema)
        [3, 3, 1, 3, 3, 90, 0, 0, 62, 5, 0, 9, 1, 3, 1, 1, 0, 0] 7 CodecLimits.standard = .error e := by
  have h : decodeBody unitSchema (unitsBefore.quantized unitSchema)
      [3, 3, 1, 3, 3, 90, 0, 0, 62, 5, 0, 9, 1, 3, 1, 1, 0] 7 CodecLimits.standard =
      .ok { unitsAfter.quantized unitSchema with tick := 7 } := by
    decide +kernel
  have hbody := (snapshot_bodies_prefix_free unitSchema (unitsBefore.quantized unitSchema) 7
    CodecLimits.standard).1 _ _ h
  exact ⟨h, hbody.1 _ ⟨[0], rfl⟩ (by decide), hbody.2 [0] (by decide)⟩

end EntitySync
