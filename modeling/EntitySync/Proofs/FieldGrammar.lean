import EntitySync.Proofs.CodeGrammar
import EntitySync.Proofs.BodyLayout
/-!
# The field-block grammar

Which byte strings the field-block reader accepts, said without the reader. A block for the
leaves `fs` on top of base values is the number of leaves as a varint of at most five bytes (a
form longer than needed included), a mask byte per eight leaves whose low bits flag the leaves in
order (the padding bits of the last byte are not looked at), and then the payload of each flagged
leaf, in order (`LeafPayload`): a value that fits the leaf, in its wire bytes, or for a float any
bytes of its codec's width. The values read are the base values with each flagged leaf replaced
by the value of its payload (`Payloads`).

`decodeFields_iff_fieldBlock` says that the reader accepts exactly such blocks, takes exactly
their bytes and returns those values; so every state it reads fits the schema, and so does every
state that an entity entry or a snapshot body decodes to.
-/

namespace EntitySync

open FieldBlock

/-- `q` is a payload of a leaf of kind `k` that reads as `v`: the wire bytes of a value that fits
the kind, or for a float, any bytes of its codec's width, read as the codec's value of their
little-endian code. -/
inductive LeafPayload : FieldKind → Bytes → FieldValue → Prop
  | exact {k : FieldKind} {v : FieldValue} (hk : ∀ c, k ≠ .float c) (hv : v.check k = .ok ()) :
      LeafPayload k (v.bytesAs k) v
  | float (c : FloatCodec) {q : Bytes} (hq : q.length = c.wireSize) :
      LeafPayload (.float c) q (.f32 (c.fromBits (ofLE q)))

/-- `p` is the payloads of the flagged leaves of `fs`, in order, and `vals` are the base values
with each flagged leaf replaced by the value of its payload. -/
inductive Payloads : List Field → List Bool → List FieldValue → Bytes → List FieldValue → Prop
  | nil : Payloads [] [] [] [] []
  | keep {f : Field} {fs : List Field} {flags : List Bool} {b : FieldValue} {base : List FieldValue}
      {p : Bytes} {vals : List FieldValue} (h : Payloads fs flags base p vals) :
      Payloads (f :: fs) (false :: flags) (b :: base) p (b :: vals)
  | replace {f : Field} {fs : List Field} {flags : List Bool} {b : FieldValue}
      {base : List FieldValue} {q p : Bytes} {v : FieldValue} {vals : List FieldValue}
      (hq : LeafPayload f.kind q v) (h : Payloads fs flags base p vals) :
      Payloads (f :: fs) (true :: flags) (b :: base) (q ++ p) (v :: vals)

/-- `block` is a field block for the leaves `fs` on top of the base values `base` that reads as
`vals`: the leaf count, the mask and the payloads of the flagged leaves. -/
def FieldBlockOf (fs : List Field) (base : List FieldValue) (block : Bytes)
    (vals : List FieldValue) : Prop :=
  ∃ count mask p, block = count ++ mask ++ p ∧ Varint fs.length count ∧ count.length ≤ 5 ∧
    mask.length = maskLen fs.length ∧ Payloads fs ((unpackMask mask).take fs.length) base p vals

/-! ## Payloads -/

theorem FieldValue.quantize_of_not_float {k : FieldKind} {v : FieldValue} (hk : ∀ c, k ≠ .float c) :
    v.quantize k = v := by
  cases k
  case float c => exact absurd rfl (hk c)
  all_goals rfl

theorem LeafPayload.of_bytesAs_eq {k : FieldKind} {v : FieldValue} {q : Bytes}
    (hk : ∀ c, k ≠ .float c) (hv : v.check k = .ok ()) (h : v.bytesAs k = q) : LeafPayload k q v :=
  h ▸ .exact hk hv

theorem LeafPayload.check {k : FieldKind} {q : Bytes} {v : FieldValue} (h : LeafPayload k q v) :
    v.check k = .ok () := by
  cases h with
  | exact _ hv => exact hv
  | float c _ => rfl

theorem ofLE_lt_of_length {bs : Bytes} {w : Nat} (h : bs.length = w) : ofLE bs < 2 ^ (8 * w) :=
  h ▸ ofLE_lt bs

theorem toLE_twosComplement_signedOf {bs : Bytes} {w : Nat} (h : bs.length = w) :
    toLE w (twosComplement w (signedOf w (ofLE bs))) = bs := by
  rw [twosComplement_signedOf (ofLE_lt_of_length h), toLE_ofLE_of_length h]

theorem Payloads.check {fs : List Field} {flags : List Bool} {base vals : List FieldValue}
    {p : Bytes} (h : Payloads fs flags base p vals)
    (hb : ∀ x ∈ fs.zip base, x.2.check x.1.kind = .ok ()) :
    ∀ x ∈ fs.zip vals, x.2.check x.1.kind = .ok () := by
  induction h with
  | nil => simp
  | keep _ ih =>
    intro x hx
    rcases List.mem_cons.mp hx with rfl | hx
    · exact hb _ (by simp)
    · exact ih (fun y hy => hb y (List.mem_cons_of_mem _ hy)) x hx
  | replace hq _ ih =>
    intro x hx
    rcases List.mem_cons.mp hx with rfl | hx
    · exact hq.check
    · exact ih (fun y hy => hb y (List.mem_cons_of_mem _ hy)) x hx

theorem Payloads.length_vals {fs : List Field} {flags : List Bool} {base vals : List FieldValue}
    {p : Bytes} (h : Payloads fs flags base p vals) : vals.length = fs.length := by
  induction h <;> simp_all

/-! ## A reader that has failed stays failed -/

namespace FieldBlock.Reader

variable {r r' : Reader}

theorem setError_error_ne_none (r : Reader) (e : StreamError) : (r.setError e).error ≠ none := by
  unfold setError
  split_ifs with h
  · exact Option.isSome_iff_ne_none.mp h
  · simp

theorem setError_of_error (h : r.error.isSome) (e : StreamError) : r.setError e = r := by
  simp [setError, h]

theorem getBit_of_error (h : r.error.isSome) : r.getBit = (false, r) := by
  simp [getBit, h]

theorem getBytes_of_error (h : r.error.isSome) (n : Nat) : r.getBytes n = (List.replicate n 0, r) := by
  simp [getBytes, h]

theorem getString_of_error (h : r.error.isSome) (maxLen : Nat) : r.getString maxLen = ("", r) := by
  simp [getString, h]

theorem readValue_of_error (h : r.error.isSome) (k : FieldKind) : (readValue k r).2 = r := by
  cases k <;> simp only [readValue, getBytes_of_error h, getString_of_error h, setError_of_error h,
    ite_self]
  -- an enumeration read as zeros is refused or not, with the reader as it was either way
  split <;> rfl

theorem readFlagged_of_error (h : r.error.isSome) (fs : List Field) (vs : List FieldValue) :
    readFlagged fs vs r = (vs, r) := by
  induction fs generalizing vs with
  | nil => rfl
  | cons f fs ih =>
    cases vs with
    | nil => rfl
    | cons v vs => simp [readFlagged, getBit_of_error h, ih]

/-! ## One read of a reader that has not failed -/

theorem getBit_eq_clean {x : Bool} (hr : r.error = none) (h : r.getBit = (x, r'))
    (h' : r'.error = none) : r.flags[r.consumed]? = some x ∧ r' = { r with consumed := r.consumed + 1 } := by
  obtain ⟨cursor, flags, consumed, error⟩ := r
  obtain rfl : error = none := hr
  simp only [getBit, Option.isSome_none, Bool.false_eq_true, if_false] at h
  split at h
  next f hf =>
    cases h
    exact ⟨hf, rfl⟩
  next =>
    cases h
    exact absurd h' (setError_error_ne_none _ _)

theorem getBytes_eq_clean {n : Nat} {bs : Bytes} (hr : r.error = none) (h : r.getBytes n = (bs, r'))
    (h' : r'.error = none) :
    r.cursor.rest = bs ++ r'.cursor.rest ∧ bs.length = n ∧
      r' = { r with cursor := ⟨r'.cursor.rest, r.cursor.pos + n⟩ } := by
  obtain ⟨cursor, flags, consumed, error⟩ := r
  obtain rfl : error = none := hr
  simp only [getBytes, Option.isSome_none, Bool.false_eq_true, if_false] at h
  split at h
  next bs' c htake =>
    cases h
    obtain ⟨hrest, hlen, hpos⟩ := Cursor.take_eq_ok htake
    exact ⟨hrest, hlen, by rw [← hpos]⟩
  next e _ =>
    cases h
    exact absurd h' (setError_error_ne_none _ _)

theorem getString_eq_clean {maxLen : Nat} {s : String} (hr : r.error = none)
    (h : r.getString maxLen = (s, r')) (h' : r'.error = none) :
    r.cursor.rest = encodeUtf8 s ++ 0 :: r'.cursor.rest ∧ (encodeUtf8 s).length ≤ maxLen ∧
      0 ∉ encodeUtf8 s ∧
      r' = { r with cursor := ⟨r'.cursor.rest, r.cursor.pos + (encodeUtf8 s).length + 1⟩ } := by
  obtain ⟨cursor, flags, consumed, error⟩ := r
  obtain rfl : error = none := hr
  simp only [getString, Option.isSome_none, Bool.false_eq_true, if_false] at h
  split at h
  next s' c hread =>
    cases h
    obtain ⟨hrest, hpos, hlen, hnul⟩ := Cursor.readString_eq_ok hread
    exact ⟨hrest, hlen, hnul, by rw [← hpos]⟩
  next e _ =>
    cases h
    exact absurd h' (setError_error_ne_none _ _)

theorem finish_error_eq_none (h : r.finish = .ok ()) : r.error = none := by
  unfold finish at h
  split at h
  · cases h
  · assumption

/-! ## One leaf read without a failure -/

theorem payload_of_getBytes {n : Nat} {bs : Bytes} {k : FieldKind} {v : FieldValue}
    (hr : r.error = none) (hg : r.getBytes n = (bs, r')) (h' : r'.error = none)
    (hq : bs.length = n → LeafPayload k bs v) :
    ∃ q, LeafPayload k q v ∧ r.cursor.rest = q ++ r'.cursor.rest ∧
      r' = { r with cursor := ⟨r'.cursor.rest, r.cursor.pos + q.length⟩ } := by
  obtain ⟨hrest, hlen, hr'⟩ := getBytes_eq_clean hr hg h'
  exact ⟨bs, hq hlen, hrest, by rw [hlen]; exact hr'⟩

/-- A leaf read without a failure took a payload of its kind, and the value read is that
payload's. -/
theorem readValue_eq_clean {k : FieldKind} {v : FieldValue} (hr : r.error = none)
    (h : readValue k r = (v, r')) (h' : r'.error = none) :
    ∃ q, LeafPayload k q v ∧ r.cursor.rest = q ++ r'.cursor.rest ∧
      r' = { r with cursor := ⟨r'.cursor.rest, r.cursor.pos + q.length⟩ } := by
  cases k with
  | bool =>
    rcases hg : r.getBytes 1 with ⟨bs, r₁⟩
    simp only [readValue, hg] at h
    split_ifs at h with hbyte
    · cases h
      exact absurd h' (setError_error_ne_none _ _)
    · cases h
      refine payload_of_getBytes hr hg h' fun hlen => ?_
      obtain ⟨b, rfl⟩ := List.length_eq_one_iff.mp hlen
      have hb : b = 0 ∨ b = 1 := by
        simp only [ofLE_cons, ofLE_nil] at hbyte
        rcases (show b.toNat = 0 ∨ b.toNat = 1 by omega) with h0 | h1
        · exact .inl (UInt8.toNat_inj.mp h0)
        · exact .inr (UInt8.toNat_inj.mp h1)
      rcases hb with rfl | rfl <;> exact LeafPayload.of_bytesAs_eq (by simp) rfl (by decide)
  | u8 | u16 | u32 | u64 =>
    simp only [readValue] at h
    generalize hg : r.getBytes _ = p at h
    obtain ⟨bs, r₁⟩ := p
    cases h
    refine payload_of_getBytes hr hg h' fun hlen => LeafPayload.of_bytesAs_eq (by simp) rfl ?_
    -- a payload of w bytes is below 2 ^ (8 * w), so the word keeps its number whole
    simp only [FieldValue.bytesAs, UInt8.toNat_ofNat', UInt16.toNat_ofNat', UInt32.toNat_ofNat',
      UInt64.toNat_ofNat']
    rw [Nat.mod_eq_of_lt (by simpa using ofLE_lt_of_length hlen), toLE_ofLE_of_length hlen]
  | i8 | i16 | i32 | i64 =>
    simp only [readValue] at h
    generalize hg : r.getBytes _ = p at h
    obtain ⟨bs, r₁⟩ := p
    cases h
    refine payload_of_getBytes hr hg h' fun hlen => LeafPayload.of_bytesAs_eq (by simp) rfl ?_
    -- the signed reading lies in the word's range, where the balanced remainder changes nothing
    have hm := signedOf_mem (by decide) (ofLE_lt_of_length hlen)
    simp only [FieldValue.bytesAs, Int8.toInt_ofInt, Int16.toInt_ofInt, Int32.toInt_ofInt,
      Int64.toInt_ofInt]
    rw [Int.bmod_eq_of_le, toLE_twosComplement_signedOf hlen]
    · simpa using hm.1
    · simpa using hm.2
  | float c =>
    rcases hg : r.getBytes c.wireSize with ⟨bs, r₁⟩
    simp only [readValue, hg] at h
    cases h
    exact payload_of_getBytes hr hg h' fun hlen => .float c hlen
  | enum variants =>
    rcases hg : r.getBytes (enumWidth variants) with ⟨bs, r₁⟩
    simp only [readValue, hg] at h
    split_ifs at h with hv
    · cases h
      exact absurd h' (setError_error_ne_none _ _)
    · cases h
      refine payload_of_getBytes hr hg h' fun hlen => ?_
      -- an enumeration takes at most four bytes, so its value is a 32-bit one
      have h32 : ofLE bs < 2 ^ (32 : Nat) :=
        Nat.lt_of_lt_of_le (ofLE_lt_of_length hlen)
          (Nat.pow_le_pow_right (by decide) (by unfold enumWidth; split_ifs <;> omega))
      have hval : (UInt32.ofNat (ofLE bs)).toNat = ofLE bs := by
        rw [UInt32.toNat_ofNat', Nat.mod_eq_of_lt h32]
      refine LeafPayload.of_bytesAs_eq (by simp) ?_ ?_
      · simp [FieldValue.check, hval, Nat.lt_of_not_le hv]
      · simp only [FieldValue.bytesAs, hval, toLE_ofLE_of_length hlen]
  | str maxLen =>
    rcases hg : r.getString maxLen with ⟨s, r₁⟩
    simp only [readValue, hg] at h
    cases h
    obtain ⟨hrest, hlen, hnul, hr'⟩ := getString_eq_clean hr hg h'
    refine ⟨encodeUtf8 s ++ [0], LeafPayload.of_bytesAs_eq (by simp) ?_ rfl, by simpa using hrest, ?_⟩
    · simp [FieldValue.check, Nat.not_lt.mpr hlen, hnul]
    · rw [hr']
      simp [Nat.add_assoc]

/-- A payload of a leaf's kind is read as its value, when the leaf's kind is one whose payloads
are shorter than the largest size. -/
theorem readValue_of_leafPayload {k : FieldKind} {q rest : Bytes} {v : FieldValue}
    (hr : r.error = none) (hq : LeafPayload k q v) (hc : r.cursor.rest = q ++ rest)
    (hk : k.maxWireSize ≤ 2 ^ (16 : Nat)) :
    readValue k r = (v, { r with cursor := ⟨rest, r.cursor.pos + q.length⟩ }) := by
  cases hq with
  | exact hnf hv =>
    rw [readValue_bytesAs hr hc hv hk, FieldValue.quantize_of_not_float hnf,
      FieldValue.quantize_of_not_float hnf]
  | float c hlen =>
    simp [readValue, getBytes_of_rest hr hc hlen, hlen]

/-! ## Reading the flagged leaves -/

/-- One leaf of a block read to the end without a failure: its flag was declared, and the leaf
kept its base value or was read from the payload. -/
theorem readFlagged_cons_eq_clean {f : Field} {fs : List Field} {b : FieldValue}
    {base vals : List FieldValue} (hr : r.error = none)
    (h : readFlagged (f :: fs) (b :: base) r = (vals, r')) (h' : r'.error = none) :
    ∃ x v vs r₂, r.flags[r.consumed]? = some x ∧ vals = v :: vs ∧ r₂.error = none ∧
      readFlagged fs base r₂ = (vs, r') ∧
      (x = false ∧ v = b ∧ r₂ = { r with consumed := r.consumed + 1 } ∨
        x = true ∧ readValue f.kind { r with consumed := r.consumed + 1 } = (v, r₂)) := by
  rcases hb : r.getBit with ⟨x, r₁⟩
  rcases hv : (if x then readValue f.kind r₁ else (b, r₁)) with ⟨v, r₂⟩
  rcases hrest : readFlagged fs base r₂ with ⟨vs, r₃⟩
  simp only [readFlagged, hb, hv, hrest, Prod.mk.injEq] at h
  obtain ⟨rfl, rfl⟩ := h
  -- a failure on the way would have been kept to the end
  have hr₂ : r₂.error = none := by
    by_contra hne
    rw [readFlagged_of_error (Option.isSome_iff_ne_none.mpr hne)] at hrest
    cases hrest
    exact hne h'
  have hr₁ : r₁.error = none := by
    by_contra hne
    have hsome := Option.isSome_iff_ne_none.mpr hne
    have h₂₁ : r₂ = r₁ := by
      cases x
      · simp only [Bool.false_eq_true, if_false, Prod.mk.injEq] at hv
        exact hv.2.symm
      · simp only [if_true] at hv
        rw [← readValue_of_error hsome f.kind, hv]
    exact hne (h₂₁ ▸ hr₂)
  obtain ⟨hflag, rfl⟩ := getBit_eq_clean hr hb hr₁
  refine ⟨x, v, vs, r₂, hflag, rfl, hr₂, hrest, ?_⟩
  cases x
  · simp only [Bool.false_eq_true, if_false, Prod.mk.injEq] at hv
    exact .inl ⟨rfl, hv.1.symm, hv.2.symm⟩
  · exact .inr ⟨rfl, hv⟩

/-- The leaves of a block read to the end without a failure: as many flags were declared, and
the bytes taken are the payloads of the flagged leaves. -/
theorem readFlagged_eq_clean {fs : List Field} {base vals : List FieldValue} (hr : r.error = none)
    (hlen : base.length = fs.length) (h : readFlagged fs base r = (vals, r'))
    (h' : r'.error = none) :
    fs.length ≤ (r.flags.drop r.consumed).length ∧ ∃ p,
      Payloads fs ((r.flags.drop r.consumed).take fs.length) base p vals ∧
      r.cursor.rest = p ++ r'.cursor.rest ∧ r'.flags = r.flags ∧
      r'.consumed = r.consumed + fs.length ∧ r'.cursor.pos = r.cursor.pos + p.length := by
  -- on the leaves; the invariant is that nothing failed so far
  induction fs generalizing base r vals with
  | nil =>
    obtain rfl := List.eq_nil_of_length_eq_zero hlen
    simp only [readFlagged, Prod.mk.injEq] at h
    obtain ⟨rfl, rfl⟩ := h
    exact ⟨by simp, [], by simpa using Payloads.nil, by simp, rfl, by simp, by simp⟩
  | cons f fs ih =>
    obtain ⟨b, base, rfl⟩ := List.exists_cons_of_length_eq_add_one hlen
    obtain ⟨x, v, vs, r₂, hflag, rfl, hr₂, hrest, hstep⟩ := readFlagged_cons_eq_clean hr h h'
    obtain ⟨hlt, hx⟩ := List.getElem?_eq_some_iff.mp hflag
    have hdrop : r.flags.drop r.consumed = x :: r.flags.drop (r.consumed + 1) := by
      rw [List.drop_eq_getElem_cons hlt, hx]
    obtain ⟨q, hpay, hrest₂, hflags₂, hcons₂, hpos₂⟩ : ∃ q,
        (x = false ∧ v = b ∧ q = [] ∨ x = true ∧ LeafPayload f.kind q v) ∧
        r.cursor.rest = q ++ r₂.cursor.rest ∧ r₂.flags = r.flags ∧
        r₂.consumed = r.consumed + 1 ∧ r₂.cursor.pos = r.cursor.pos + q.length := by
      rcases hstep with ⟨rfl, rfl, rfl⟩ | ⟨rfl, hread⟩
      · exact ⟨[], .inl ⟨rfl, rfl, rfl⟩, by simp, rfl, rfl, by simp⟩
      · obtain ⟨q, hq, hc, hr₂eq⟩ := readValue_eq_clean (r := { r with consumed := r.consumed + 1 })
          hr hread hr₂
        exact ⟨q, .inr ⟨rfl, hq⟩, hc, by rw [hr₂eq], by rw [hr₂eq], by rw [hr₂eq]⟩
    obtain ⟨hle, p, hp, hc, hfl, hco, hpo⟩ := ih hr₂ (Nat.succ.inj hlen) hrest
    rw [hflags₂, hcons₂] at hle hp
    refine ⟨by rw [hdrop, List.length_cons, List.length_cons]; omega, q ++ p, ?_, by rw [hrest₂, hc, List.append_assoc],
      by rw [hfl, hflags₂], by rw [hco, hcons₂]; simp; omega, by rw [hpo, hpos₂]; simp; omega⟩
    rw [hdrop, List.length_cons, List.take_succ_cons]
    rcases hpay with ⟨rfl, rfl, rfl⟩ | ⟨rfl, hq⟩
    · exact .keep hp
    · exact .replace hq hp

theorem readFlagged_of_payloads {fs : List Field} {flags more : List Bool}
    {base vals : List FieldValue} {p rest : Bytes} (hp : Payloads fs flags base p vals)
    (hr : r.error = none) (hflags : r.flags.drop r.consumed = flags ++ more)
    (hc : r.cursor.rest = p ++ rest) (hk : ∀ f ∈ fs, f.kind.maxWireSize ≤ 2 ^ (16 : Nat)) :
    readFlagged fs base r = (vals, { r with
      cursor := ⟨rest, r.cursor.pos + p.length⟩
      consumed := r.consumed + fs.length }) := by
  induction hp generalizing r with
  | nil =>
    obtain ⟨⟨rest', pos⟩, flags', consumed, error⟩ := r
    simp only [List.nil_append] at hc
    subst hc
    simp [readFlagged]
  | @keep f fs flags b base p vals _ ih =>
    have hbit := getBit_of_drop hr (show r.flags.drop r.consumed = false :: (flags ++ more) from hflags)
    have hrest := ih (r := { r with consumed := r.consumed + 1 }) hr
      (by simp [← List.drop_drop, hflags]) hc (fun g hg => hk g (List.mem_cons_of_mem _ hg))
    simp only [readFlagged, hbit, Bool.false_eq_true, if_false, hrest]
    simp [Nat.add_assoc, Nat.add_comm 1]
  | @replace f fs flags b base q p v vals hq _ ih =>
    have hbit := getBit_of_drop hr (show r.flags.drop r.consumed = true :: (flags ++ more) from hflags)
    have hval := readValue_of_leafPayload (r := { r with consumed := r.consumed + 1 }) hr hq
      (show r.cursor.rest = q ++ (p ++ rest) by simp [hc]) (hk f (by simp))
    have hrest := ih (r := { r with
        cursor := ⟨p ++ rest, r.cursor.pos + q.length⟩
        consumed := r.consumed + 1 }) hr (by simp [← List.drop_drop, hflags]) rfl
      (fun g hg => hk g (List.mem_cons_of_mem _ hg))
    simp only [readFlagged, hbit, if_true, hval, hrest]
    simp [Nat.add_assoc, Nat.add_comm 1]

/-! ## The leaf count and the mask -/

/-- A block opened without a failure starts with a varint count within the bound and a mask
of as many bytes as the count needs. -/
theorem begin_eq_clean {c : Cursor} {maxFields : Nat} (h : (begin c maxFields).error = none) :
    ∃ count mask rest n, Varint n count ∧ count.length ≤ 5 ∧ n ≤ min maxFields maxBlockFields ∧
      mask.length = maskLen n ∧ c.rest = count ++ mask ++ rest ∧
      begin c maxFields =
        ⟨⟨rest, c.pos + count.length + mask.length⟩, (unpackMask mask).take n, 0, none⟩ := by
  cases hread : c.readVarU32 with
  | error e => simp [begin, hread] at h
  | ok p =>
    obtain ⟨n, c₁⟩ := p
    obtain ⟨count, hv, hlen, -, hrest₁, hpos₁⟩ := Cursor.readVarU32_eq_ok_iff.mp hread
    by_cases hlim : min maxFields maxBlockFields < n
    · simp [begin, hread, hlim] at h
    · cases htake : c₁.take (maskLen n) with
      | error e => simp [begin, hread, hlim, htake] at h
      | ok p =>
        obtain ⟨mask, c₂⟩ := p
        obtain ⟨hrest₂, hmlen, hpos₂⟩ := Cursor.take_eq_ok htake
        refine ⟨count, mask, c₂.rest, n, hv, hlen, Nat.le_of_not_lt hlim, hmlen,
          by rw [hrest₁, hrest₂, List.append_assoc], ?_⟩
        obtain ⟨rest₂, pos₂⟩ := c₂
        simp only at hpos₂
        simp [begin, hread, hlim, htake, hpos₂, hpos₁, hmlen]

theorem begin_of_varint {c : Cursor} {maxFields n : Nat} {count mask rest : Bytes}
    (hv : Varint n count) (hlen : count.length ≤ 5) (hn : n ≤ min maxFields maxBlockFields)
    (hmask : mask.length = maskLen n) (hc : c.rest = count ++ mask ++ rest) :
    begin c maxFields =
      ⟨⟨rest, c.pos + count.length + mask.length⟩, (unpackMask mask).take n, 0, none⟩ := by
  have hread : c.readVarU32 = .ok (n, ⟨mask ++ rest, c.pos + count.length⟩) :=
    Cursor.readVarU32_eq_ok_iff.mpr ⟨count, hv, hlen, by simp [maxBlockFields] at hn; omega,
      by simp [hc], rfl⟩
  have htake : (⟨mask ++ rest, c.pos + count.length⟩ : Cursor).take mask.length =
      .ok (mask, ⟨rest, c.pos + count.length + mask.length⟩) := Cursor.take_of_rest rfl
  rw [hmask] at htake
  simp [begin, hread, Nat.not_lt.mpr hn, htake, hmask]

end FieldBlock.Reader

/-! ## Field blocks -/

section Decoding

open FieldBlock.Reader

variable {schema : Schema} {baseline : Option EntityState} {c c' : Cursor} {st : EntityState}

theorem length_take_unpackMask {mask : Bytes} {n : Nat} (h : mask.length = maskLen n) :
    ((unpackMask mask).take n).length = n := by
  simp only [List.length_take, unpackMask, List.length_flatMap, length_byteFlags, List.map_const',
    List.sum_replicate, smul_eq_mul, h, maskLen]
  omega

/-- What a field block read without a failure took: a block of the grammar, on top of the
baseline or the zero state. -/
theorem fieldBlockOf_of_decodeFields (hvalid : schema.validate = .ok ())
    (hbase : ∀ b ∈ baseline, b.WellTyped schema) (h : decodeFields schema baseline c = .ok (st, c')) :
    ∃ block, FieldBlockOf schema.fields (baseline.getD (EntityState.zeroed schema)).values block
      st.values ∧ c.rest = block ++ c'.rest ∧ c'.pos = c.pos + block.length := by
  have hbwt := EntityState.wellTyped_getD hvalid hbase
  unfold decodeFields at h
  rw [baseState_eq_ok hbase] at h
  rcases hrf : readFlagged schema.fields (baseline.getD (EntityState.zeroed schema)).values
    (begin c schema.len) with ⟨vals, r'⟩
  simp only [bind, Except.bind, hrf] at h
  cases hfin : r'.finish with
  | error e => simp [hfin, Except.mapError] at h
  | ok u =>
    simp only [hfin, Except.mapError, pure, Except.pure, Except.ok.injEq, Prod.mk.injEq] at h
    obtain ⟨rfl, rfl⟩ := h
    have h' := finish_error_eq_none hfin
    -- a failure when opening the block would have been kept to the end
    have hbeg : (begin c schema.len).error = none := by
      by_contra hne
      rw [readFlagged_of_error (Option.isSome_iff_ne_none.mpr hne)] at hrf
      cases hrf
      exact hne h'
    obtain ⟨count, mask, rest, n, hv, hcl, hn, hml, hc, hbegin⟩ := begin_eq_clean hbeg
    rw [hbegin] at hrf
    obtain ⟨hle, p, hp, hc', -, -, hpos⟩ := readFlagged_eq_clean rfl hbwt.1 hrf h'
    -- the count is the number of leaves: no more by the bound, no fewer as every leaf was read
    have hflen := length_take_unpackMask (n := n) hml
    simp only [List.drop_zero, hflen] at hle hp
    have hcount : n = schema.fields.length := by
      simp only [Schema.len] at hn
      omega
    subst hcount
    simp only [List.take_take, min_self] at hp
    simp only at hc'
    refine ⟨count ++ mask ++ p, ⟨count, mask, p, rfl, hv, hcl, hml, hp⟩,
      by rw [hc, hc']; simp, ?_⟩
    rw [hpos]
    simp [Nat.add_assoc]

theorem decodeFields_of_fieldBlockOf {block rest : Bytes} {vals : List FieldValue}
    (hvalid : schema.validate = .ok ()) (hk : schema.Bounded)
    (hbase : ∀ b ∈ baseline, b.WellTyped schema)
    (hblock : FieldBlockOf schema.fields (baseline.getD (EntityState.zeroed schema)).values block vals)
    (hc : c.rest = block ++ rest) :
    decodeFields schema baseline c = .ok (⟨vals⟩, ⟨rest, c.pos + block.length⟩) := by
  obtain ⟨count, mask, p, rfl, hv, hcl, hml, hp⟩ := hblock
  have hlen : schema.fields.length ≤ min schema.len maxBlockFields := by
    have := (Schema.validate_eq_ok hvalid).1
    simp only [Schema.len, maxSchemaFields, maxBlockFields] at this ⊢
    omega
  have hbegin := begin_of_varint hv hcl hlen hml (show c.rest = count ++ mask ++ (p ++ rest) by
    simp [hc])
  have hrf := readFlagged_of_payloads hp (r := begin c schema.len) (by rw [hbegin])
    (show (begin c schema.len).flags.drop (begin c schema.len).consumed =
      (unpackMask mask).take schema.fields.length ++ [] by simp [hbegin])
    (show (begin c schema.len).cursor.rest = p ++ rest by simp [hbegin]) hk
  have hfin : (readFlagged schema.fields (baseline.getD (EntityState.zeroed schema)).values
      (begin c schema.len)).2.finish = .ok () := by
    rw [hrf]
    refine finish_of_drop (by simp [hbegin]) ?_
    simp [hbegin]
  unfold decodeFields
  rw [baseState_eq_ok hbase]
  simp only [bind, Except.bind, hfin, Except.mapError, pure, Except.pure]
  rw [hrf]
  simp [hbegin, Nat.add_assoc]

theorem decodeFields_wellTyped (hvalid : schema.validate = .ok ())
    (hbase : ∀ b ∈ baseline, b.WellTyped schema) (h : decodeFields schema baseline c = .ok (st, c')) :
    st.WellTyped schema := by
  have hbwt := EntityState.wellTyped_getD hvalid hbase
  obtain ⟨block, hblock, -, -⟩ := fieldBlockOf_of_decodeFields hvalid hbase h
  obtain ⟨count, mask, p, -, -, -, -, hp⟩ := hblock
  exact ⟨by rw [hp.length_vals]; rfl, hp.check hbwt.2⟩

theorem decodeFields_of_decodeEntity_some (h : decodeEntity schema baseline c = .ok (some st, c')) :
    ∃ c₁, decodeFields schema baseline c₁ = .ok (st, c') := by
  rw [decodeEntity, Except.bind_eq_ok] at h
  obtain ⟨⟨tag, c₁⟩, -, h⟩ := h
  simp only at h
  split at h
  · simp [pure, Except.pure] at h
  · rw [Except.bind_eq_ok] at h
    obtain ⟨⟨s, c₂⟩, hfields, h⟩ := h
    simp only [pure, Except.pure, Except.ok.injEq, Prod.mk.injEq, Option.some.injEq] at h
    obtain ⟨rfl, rfl⟩ := h
    exact ⟨c₁, hfields⟩
  · cases h

theorem decodeEntity_wellTyped (hvalid : schema.validate = .ok ())
    (hbase : ∀ b ∈ baseline, b.WellTyped schema)
    (h : decodeEntity schema baseline c = .ok (some st, c')) : st.WellTyped schema := by
  obtain ⟨c₁, hfields⟩ := decodeFields_of_decodeEntity_some h
  exact decodeFields_wellTyped hvalid hbase hfields

end Decoding

/-! ## Snapshot bodies -/

section Body

variable {schema : Schema} {limits : CodecLimits} {baseline acc S : Snapshot} {c c' : Cursor}

/-- One entry read by the body decoder: an entity entry at some slot, after which the snapshot
holds what it held or the state that entry read. -/
theorem decodeBodyEntries_succ_eq_ok {count : Nat} {prev : Option Nat}
    (h : decodeBodyEntries schema baseline limits (count + 1) prev acc c = .ok (S, c')) :
    ∃ slot st c₁ c₂, decodeEntity schema (baseline.get? slot) c₁ = .ok (st, c₂) ∧
      ∃ acc' : Snapshot, (∀ e ∈ acc'.entities, e ∈ acc.entities ∨ some e.2 = st) ∧
        decodeBodyEntries schema baseline limits count (some slot.toNat) acc' c₂ = .ok (S, c') := by
  rw [decodeBodyEntries, Except.bind_eq_ok] at h
  obtain ⟨⟨raw, c₁⟩, -, h⟩ := h
  rcases hs : Slot.ofNat? raw with _ | slot
  · simp [hs] at h
  simp only [hs] at h
  split_ifs at h with hlim
  · cases h
  split at h
  any_goals split_ifs at h
  all_goals try cases h
  all_goals
    rw [Except.bind_eq_ok] at h
    obtain ⟨⟨st, c₂⟩, hent, h⟩ := h
    refine ⟨slot, st, c₁, c₂, hent, ?_⟩
    cases st with
    | some s =>
      refine ⟨(acc.insert slot s).2, fun e he => ?_, h⟩
      rcases Snapshot.mem_insertSorted he with he | rfl
      · exact .inl he
      · exact .inr rfl
    | none =>
      simp only at h
      split at h
      next acc'' heq =>
        refine ⟨acc'', fun e he => .inl ?_, h⟩
        simp only [Snapshot.erase, Prod.mk.injEq] at heq
        rw [← heq.2] at he
        exact (List.mem_filter.mp he).1
      next => cases h

/-- Read on top of a baseline whose states fit the schema, body entries keep every state of the
snapshot fitting it. -/
theorem decodeBodyEntries_wellTyped (hvalid : schema.validate = .ok ())
    (hB : ∀ e ∈ baseline.entities, e.2.WellTyped schema) {count : Nat} {prev : Option Nat}
    (h : decodeBodyEntries schema baseline limits count prev acc c = .ok (S, c'))
    (hacc : ∀ e ∈ acc.entities, e.2.WellTyped schema) : ∀ e ∈ S.entities, e.2.WellTyped schema := by
  -- on the entries; the invariant is that every state held so far fits
  induction count generalizing prev acc c with
  | zero =>
    simp only [decodeBodyEntries, Except.ok.injEq, Prod.mk.injEq] at h
    obtain ⟨rfl, -⟩ := h
    exact hacc
  | succ count ih =>
    obtain ⟨slot, st, c₁, c₂, hent, acc', hmem, hrest⟩ := decodeBodyEntries_succ_eq_ok h
    refine ih hrest fun e he => ?_
    rcases hmem e he with he | hst
    · exact hacc e he
    · -- the state the entry read, on top of the baseline's state at its slot
      have hbase : ∀ b ∈ baseline.get? slot, b.WellTyped schema := by
        intro b hb
        obtain ⟨k, hk⟩ := Snapshot.mem_of_get? hb
        exact hB _ hk
      exact decodeEntity_wellTyped hvalid hbase (hst ▸ hent)

/-- A body read on top of a baseline whose states fit the schema gives a snapshot whose states
fit it. -/
theorem decodeBody_wellTyped {body : Bytes} {t : Tick} (hvalid : schema.validate = .ok ())
    (hB : ∀ e ∈ baseline.entities, e.2.WellTyped schema)
    (h : decodeBody schema baseline body t limits = .ok S) : ∀ e ∈ S.entities, e.2.WellTyped schema := by
  rw [decodeBody, Except.bind_eq_ok] at h
  obtain ⟨⟨count, c₁⟩, -, h⟩ := h
  simp only at h
  split_ifs at h
  · cases h
  rw [Except.bind_eq_ok] at h
  obtain ⟨⟨snap, c₂⟩, hentries, h⟩ := h
  simp only at h
  split_ifs at h
  · cases h
  cases h
  exact decodeBodyEntries_wellTyped hvalid hB hentries hB

end Body

/-! ## The grammar -/

/-- Field-block grammar: the reader accepts exactly the blocks of the grammar, and every state it
reads fits the schema. -/
theorem decodeFields_iff_fieldBlock {schema : Schema} {baseline : Option EntityState}
    (hvalid : schema.validate = .ok ()) (hk : schema.Bounded)
    (hbase : ∀ b ∈ baseline, b.WellTyped schema) :
    (∀ c st c', decodeFields schema baseline c = .ok (st, c') ↔
      ∃ block, FieldBlockOf schema.fields (baseline.getD (EntityState.zeroed schema)).values block
        st.values ∧ c.rest = block ++ c'.rest ∧ c'.pos = c.pos + block.length) ∧
    (∀ c st c', decodeFields schema baseline c = .ok (st, c') → st.WellTyped schema) ∧
    (∀ c st c', decodeEntity schema baseline c = .ok (some st, c') → st.WellTyped schema) ∧
    (∀ (limits : CodecLimits) (B : Snapshot) body t S, (∀ e ∈ B.entities, e.2.WellTyped schema) →
      decodeBody schema B body t limits = .ok S → ∀ e ∈ S.entities, e.2.WellTyped schema) := by
  refine ⟨fun c st c' => ⟨fieldBlockOf_of_decodeFields hvalid hbase, ?_⟩,
    fun _ _ _ => decodeFields_wellTyped hvalid hbase, fun _ _ _ => decodeEntity_wellTyped hvalid hbase,
    fun _ _ _ _ _ hB => decodeBody_wellTyped hvalid hB⟩
  rintro ⟨block, hblock, hrest, hpos⟩
  rw [decodeFields_of_fieldBlockOf hvalid hk hbase hblock hrest, ← hpos]

/-- A unit's block against the zero state, with its count written in two groups and the padding
bits of its mask set: hit points 90, the other leaves as they were. -/
theorem decodeFields_iff_fieldBlock_units :
    unitSchema.validate = .ok () ∧ unitSchema.Bounded ∧
      decodeFields unitSchema none ⟨[0x83, 0, 0xF9, 90, 0, 7], 0⟩ =
        .ok (⟨[.u16 90, .f32 Binary32.zero, .str ""]⟩, ⟨[7], 5⟩) := by
  have hvalid : unitSchema.validate = .ok () := by decide
  have hk : unitSchema.Bounded := by decide
  obtain ⟨hiff, -, -, -⟩ := decodeFields_iff_fieldBlock hvalid hk
    (show ∀ b ∈ (none : Option EntityState), b.WellTyped unitSchema from fun b hb => by cases hb)
  have hcount : Varint unitSchema.fields.length [0x83, 0] :=
    Varint.more (b := 0x83) (by decide) (Varint.last (b := 0) (by decide))
  have hflags : (unpackMask [0xF9]).take unitSchema.fields.length = [true, false, false] := by decide
  have hblock : FieldBlockOf unitSchema.fields
      ((none : Option EntityState).getD (EntityState.zeroed unitSchema)).values [0x83, 0, 0xF9, 90, 0]
      [.u16 90, .f32 Binary32.zero, .str ""] := by
    refine ⟨[0x83, 0], [0xF9], (FieldValue.u16 90).bytesAs .u16 ++ [], by decide, hcount, by decide,
      by decide, ?_⟩
    rw [hflags]
    exact .replace (.exact (by simp) (by decide)) (.keep (.keep .nil))
  exact ⟨hvalid, hk, (hiff _ _ _).mpr ⟨_, hblock, by decide, rfl⟩⟩

end EntitySync
