import EntitySync.Proofs.BufferRoundTrip
/-!
# What a varint read takes

The varint reads on any input, not only on what the encoder wrote. A read of at most `k` groups
(ten for a 64-bit value, five for a 32-bit one) takes the bytes up to the first one whose top
bit is clear, when that byte is among the first `k`, and gives the sum of their low seven bits,
the `i`-th group weighted by `2 ^ (7 * i)` (`groupsValue`). A tenth group may carry only the
lowest bit, and a 32-bit read refuses a sum of `2 ^ 32` or more. Encodings longer than they need
to be are read like the shortest one. Every other input is refused: as cut short when fewer than
`k` bytes remain and each has its top bit set, and as a malformed varint in all other cases.

`varint_codec` puts this beside the encoder: every 64-bit value is written in `varintLen v`
bytes, between one and ten, and both reads take exactly those bytes back, whatever follows.
-/

namespace EntitySync

/-- The number that varint groups spell when the first of them is group `idx`: the low seven bits
of each byte, the `i`-th group weighted by `2 ^ (7 * i)`. -/
def groupsValue (idx : Nat) (bs : Bytes) : Nat :=
  ((bs.zipIdx idx).map fun p => p.1.toNat % 128 * 2 ^ (7 * p.2)).sum

@[simp] theorem groupsValue_nil (idx : Nat) : groupsValue idx [] = 0 := rfl

theorem groupsValue_cons (idx : Nat) (b : UInt8) (bs : Bytes) :
    groupsValue idx (b :: bs) = b.toNat % 128 * 2 ^ (7 * idx) + groupsValue (idx + 1) bs := by
  simp [groupsValue, List.zipIdx_cons]

theorem groupWeight (idx : Nat) : (128 : Nat) ^ idx = 2 ^ (7 * idx) := by
  rw [pow_mul]
  norm_num

/-! ## The groups a decoder takes -/

section Decode

variable {maxBytes idx : Nat}

/-- Groups that end within `maxBytes` groups, whose tenth group (if any) carries at most one
bit, are read to their value at their place. -/
theorem decodeVarintFrom_groups {pre rest : Bytes} {x : UInt8} (hmax : maxBytes ≤ 10)
    (hpre : ∀ y ∈ pre, 128 ≤ y.toNat) (hx : x.toNat < 128) (hlen : idx + pre.length < maxBytes)
    (hnine : idx + pre.length = 9 → x.toNat ≤ 1) :
    decodeVarintFrom maxBytes idx (pre ++ x :: rest) =
      .ok (groupsValue idx (pre ++ [x]), idx + pre.length + 1) := by
  induction pre generalizing idx with
  | nil =>
    simp only [List.length_nil, Nat.add_zero] at hlen hnine
    -- only the tenth group meets the guard on bit 63, and its one bit passes it
    have hguard : ¬(7 * idx = 63 ∧ 1 < x.toNat % 128) := by
      rintro ⟨h9, hbig⟩
      have := hnine (by omega)
      omega
    simp only [List.nil_append, decodeVarintFrom, if_neg (Nat.not_le.mpr hlen), if_neg hguard,
      if_pos hx, groupsValue_cons, groupsValue_nil, groupWeight, List.length_nil, Nat.add_zero]
  | cons b pre ih =>
    have hb : 128 ≤ b.toNat := hpre b List.mem_cons_self
    simp only [List.length_cons] at hlen hnine
    -- a group before the last lies below the tenth, so the guard on bit 63 passes it
    have hguard : ¬(7 * idx = 63 ∧ 1 < b.toNat % 128) := fun h => by omega
    have hrest := @ih (idx + 1) (fun y hy => hpre y (List.mem_cons_of_mem _ hy)) (by omega)
      (fun h => hnine (by omega))
    simp only [List.cons_append, decodeVarintFrom, if_neg (show ¬maxBytes ≤ idx by omega),
      if_neg hguard, if_neg (show ¬b.toNat < 128 by omega), hrest, groupsValue_cons, groupWeight,
      List.length_cons, Except.ok.injEq, Prod.mk.injEq]
    exact ⟨trivial, by omega⟩

/-- What a decoder reads is groups up to the first byte whose top bit is clear, ending within
`maxBytes` groups, with at most one bit in a tenth group. -/
theorem groups_of_decodeVarintFrom {t : Bytes} {v n : Nat}
    (h : decodeVarintFrom maxBytes idx t = .ok (v, n)) :
    ∃ pre x rest, t = pre ++ x :: rest ∧ (∀ y ∈ pre, 128 ≤ y.toNat) ∧ x.toNat < 128 ∧
      idx + pre.length < maxBytes ∧ (idx + pre.length = 9 → x.toNat ≤ 1) ∧
      v = groupsValue idx (pre ++ [x]) ∧ n = idx + pre.length + 1 := by
  induction t generalizing idx v n with
  | nil =>
    simp only [decodeVarintFrom] at h
    split_ifs at h
  | cons b rest ih =>
    simp only [decodeVarintFrom] at h
    split_ifs at h with hidx hguard hlast
    · -- `b` is the last group
      cases h
      refine ⟨[], b, rest, rfl, by simp, hlast, by simp; omega, fun h9 => ?_, ?_, rfl⟩
      · simp only [List.length_nil, Nat.add_zero] at h9
        omega
      · simp [groupsValue_cons, groupWeight]
    · -- `b` is a group with more to come
      split at h
      next w k hrest =>
        cases h
        obtain ⟨pre, x, rest', rfl, hpre, hx, hlen, hnine, rfl, rfl⟩ := ih hrest
        refine ⟨b :: pre, x, rest', rfl, ?_, hx, by simp; omega, fun h9 => hnine (by simp at h9; omega),
          by simp [groupsValue_cons, groupWeight], by simp; omega⟩
        intro y hy
        rcases List.mem_cons.mp hy with rfl | hy
        · omega
        · exact hpre y hy
      next => cases h

/-- A decoder fails as cut short exactly when the input ends within `maxBytes` groups while
every byte of it still has its top bit set; every other failure is a malformed varint. -/
theorem decodeVarintFrom_eq_error {t : Bytes} {e : StreamError} (hmax : maxBytes ≤ 10)
    (h : decodeVarintFrom maxBytes idx t = .error e) :
    e = if idx + t.length < maxBytes ∧ ∀ y ∈ t, 128 ≤ y.toNat then
      .unexpectedEnd (idx + t.length + 1) (idx + t.length) else .invalidVarint := by
  induction t generalizing idx with
  | nil =>
    simp only [decodeVarintFrom] at h
    split_ifs at h with hidx <;> cases h <;> simp [hidx]
  | cons b rest ih =>
    simp only [decodeVarintFrom] at h
    split_ifs at h with hidx hguard hlast
    · -- past the last group a reader takes
      cases h
      rw [if_neg (by simp; omega)]
    · -- a tenth group carrying more than bit 63: no byte can follow within ten groups
      cases h
      rw [if_neg (by simp; omega)]
    · split at h
      · cases h
      next e' hrest =>
        cases h
        have hb : 128 ≤ b.toNat := by omega
        rw [ih hrest]
        simp only [List.length_cons, List.mem_cons, forall_eq_or_imp, hb, true_and,
          show idx + 1 + rest.length = idx + (rest.length + 1) by omega]

end Decode

/-- A byte string opens with at most one run of groups: the bytes before the first one whose top
bit is clear. -/
theorem groups_unique {pre pre' rest rest' : Bytes} {x x' : UInt8}
    (h : pre ++ x :: rest = pre' ++ x' :: rest') (hpre : ∀ y ∈ pre, 128 ≤ y.toNat) (hx : x.toNat < 128)
    (hpre' : ∀ y ∈ pre', 128 ≤ y.toNat) (hx' : x'.toNat < 128) :
    pre = pre' ∧ x = x' ∧ rest = rest' := by
  induction pre generalizing pre' with
  | nil =>
    cases pre' with
    | nil => simpa using h
    | cons y pre' =>
      -- `x` would be a byte of `pre'`, with its top bit set
      simp only [List.nil_append, List.cons_append, List.cons.injEq] at h
      obtain ⟨rfl, -⟩ := h
      have := hpre' _ List.mem_cons_self
      omega
  | cons y pre ih =>
    cases pre' with
    | nil =>
      simp only [List.nil_append, List.cons_append, List.cons.injEq] at h
      obtain ⟨rfl, -⟩ := h
      have := hpre _ List.mem_cons_self
      omega
    | cons y' pre' =>
      simp only [List.cons_append, List.cons.injEq] at h
      obtain ⟨rfl, h⟩ := h
      obtain ⟨rfl, rfl, rfl⟩ := ih h (fun z hz => hpre z (List.mem_cons_of_mem _ hz))
        (fun z hz => hpre' z (List.mem_cons_of_mem _ hz))
      exact ⟨rfl, rfl, rfl⟩

/-! ## Reads from a cursor -/

namespace Cursor

variable {c c' : Cursor} {v : Nat}

theorem readVarint_eq_ok_iff {maxBytes : Nat} (hmax : maxBytes ≤ 10) :
    c.readVarint maxBytes = .ok (v, c') ↔
      ∃ pre x rest, c.rest = pre ++ x :: rest ∧ (∀ y ∈ pre, 128 ≤ y.toNat) ∧ x.toNat < 128 ∧
        pre.length < maxBytes ∧ (pre.length = 9 → x.toNat ≤ 1) ∧
        v = groupsValue 0 (pre ++ [x]) ∧ c' = ⟨rest, c.pos + pre.length + 1⟩ := by
  constructor
  · intro h
    obtain ⟨⟨w, k⟩, hdec, h⟩ := Except.bind_eq_ok.mp h
    cases h
    obtain ⟨pre, x, rest, hrest, hpre, hx, hlen, hnine, rfl, rfl⟩ := groups_of_decodeVarintFrom hdec
    simp only [Nat.zero_add] at hlen hnine ⊢
    refine ⟨pre, x, rest, hrest, hpre, hx, hlen, hnine, rfl, ?_⟩
    simp [hrest, Nat.add_assoc]
  · rintro ⟨pre, x, rest, hrest, hpre, hx, hlen, hnine, rfl, rfl⟩
    have hdec := @decodeVarintFrom_groups maxBytes 0 pre rest x hmax hpre hx (by omega) (by omega)
    simp only [Nat.zero_add] at hdec
    simp [readVarint, decodeVarint, hrest, hdec, bind, Except.bind, pure, Except.pure,
      Nat.add_assoc]

theorem readVarU64_eq_ok_iff :
    c.readVarU64 = .ok (v, c') ↔
      ∃ pre x rest, c.rest = pre ++ x :: rest ∧ (∀ y ∈ pre, 128 ≤ y.toNat) ∧ x.toNat < 128 ∧
        pre.length < 10 ∧ (pre.length = 9 → x.toNat ≤ 1) ∧
        v = groupsValue 0 (pre ++ [x]) ∧ c' = ⟨rest, c.pos + pre.length + 1⟩ :=
  readVarint_eq_ok_iff (le_refl 10)

theorem readVarU32_eq_ok_iff_groups :
    c.readVarU32 = .ok (v, c') ↔
      ∃ pre x rest, c.rest = pre ++ x :: rest ∧ (∀ y ∈ pre, 128 ≤ y.toNat) ∧ x.toNat < 128 ∧
        pre.length < 5 ∧ v = groupsValue 0 (pre ++ [x]) ∧ v < 2 ^ (32 : Nat) ∧
        c' = ⟨rest, c.pos + pre.length + 1⟩ := by
  rcases hd : decodeVarint 5 c.rest with e | ⟨w, k⟩
  · have hread : c.readVarU32 = .error e := by
      simp [readVarU32, decodeVarU32, hd, bind, Except.bind]
    rw [hread]
    simp only [reduceCtorEq, false_iff, not_exists, not_and]
    rintro pre x rest hrest hpre hx hlen rfl -
    have := @decodeVarintFrom_groups 5 0 pre rest x (by decide) hpre hx (by omega) (by omega)
    rw [decodeVarint, hrest, this] at hd
    cases hd
  · obtain ⟨pre, x, rest, hrest, hpre, hx, hlen, -, rfl, rfl⟩ := groups_of_decodeVarintFrom hd
    simp only [Nat.zero_add] at hlen
    by_cases hw : groupsValue 0 (pre ++ [x]) < 2 ^ (32 : Nat)
    · have hread : c.readVarU32 = .ok (groupsValue 0 (pre ++ [x]), ⟨rest, c.pos + pre.length + 1⟩) := by
        simp only [readVarU32, decodeVarU32, hd, if_pos hw, bind, Except.bind, pure, Except.pure]
        simp [hrest, Nat.add_assoc]
      rw [hread]
      constructor
      · intro h
        cases h
        exact ⟨pre, x, rest, hrest, hpre, hx, hlen, rfl, hw, rfl⟩
      · rintro ⟨pre', x', rest', hrest', hpre', hx', -, rfl, -, rfl⟩
        -- the groups a byte string opens with are determined by it
        obtain ⟨rfl, rfl, rfl⟩ := groups_unique (hrest.symm.trans hrest') hpre hx hpre' hx'
        rfl
    · have hread : c.readVarU32 = .error .invalidVarint := by
        simp [readVarU32, decodeVarU32, hd, hw, bind, Except.bind]
      rw [hread]
      simp only [reduceCtorEq, false_iff, not_exists, not_and]
      rintro pre' x' rest' hrest' hpre' hx' - rfl hw' -
      obtain ⟨rfl, rfl, rfl⟩ := groups_unique (hrest.symm.trans hrest') hpre hx hpre' hx'
      exact hw hw'

theorem readVarint_eq_error {maxBytes : Nat} {e : StreamError} (hmax : maxBytes ≤ 10)
    (h : c.readVarint maxBytes = .error e) :
    e = if c.rest.length < maxBytes ∧ ∀ y ∈ c.rest, 128 ≤ y.toNat then
      .unexpectedEnd (c.rest.length + 1) c.rest.length else .invalidVarint := by
  simp only [readVarint, bind, Except.bind] at h
  split at h
  next e' hdec =>
    cases h
    simpa using decodeVarintFrom_eq_error hmax hdec
  next => cases h

/-- A 64-bit read fails as cut short exactly when fewer than ten bytes remain and all of them
have their top bit set. -/
theorem readVarU64_eq_error {e : StreamError} (h : c.readVarU64 = .error e) :
    e = if c.rest.length < 10 ∧ ∀ y ∈ c.rest, 128 ≤ y.toNat then
      .unexpectedEnd (c.rest.length + 1) c.rest.length else .invalidVarint :=
  readVarint_eq_error (le_refl 10) h

/-- A 32-bit read fails as cut short exactly when fewer than five bytes remain and all of them
have their top bit set; a value of `2 ^ 32` or more is a malformed varint. -/
theorem readVarU32_eq_error {e : StreamError} (h : c.readVarU32 = .error e) :
    e = if c.rest.length < 5 ∧ ∀ y ∈ c.rest, 128 ≤ y.toNat then
      .unexpectedEnd (c.rest.length + 1) c.rest.length else .invalidVarint := by
  simp only [readVarU32, decodeVarU32, bind, Except.bind] at h
  split at h
  next e' hdec =>
    cases h
    split at hdec
    next w k hd =>
      split_ifs at hdec
      cases hdec
      -- the five groups were there, so the input was not cut short
      obtain ⟨pre, x, rest, hrest, -, hx, -⟩ := groups_of_decodeVarintFrom hd
      have hclear : ¬∀ y ∈ c.rest, 128 ≤ y.toNat := fun hall =>
        absurd (hall x (by simp [hrest])) (by omega)
      rw [if_neg (fun h => hclear h.2)]
    next e'' hd =>
      cases hdec
      simpa using decodeVarintFrom_eq_error (by decide) hd
  next => cases h

end Cursor

/-- Varints: every 64-bit value is read back from its `varintLen v` bytes, and the 64- and 32-bit
reads accept exactly the varints of their width. -/
theorem varint_codec :
    (∀ v, v < 2 ^ (64 : Nat) →
      (encodeVarint v).length = varintLen v ∧ 1 ≤ varintLen v ∧ varintLen v ≤ 10 ∧
      ∀ (c : Cursor) (s : Bytes), c.rest = encodeVarint v ++ s →
        c.readVarU64 = .ok (v, ⟨s, c.pos + varintLen v⟩) ∧
        (v < 2 ^ (32 : Nat) → c.readVarU32 = .ok (v, ⟨s, c.pos + varintLen v⟩))) ∧
    (∀ (c c' : Cursor) (v : Nat), c.readVarU64 = .ok (v, c') ↔
      ∃ pre x rest, c.rest = pre ++ x :: rest ∧ (∀ y ∈ pre, 128 ≤ y.toNat) ∧ x.toNat < 128 ∧
        pre.length < 10 ∧ (pre.length = 9 → x.toNat ≤ 1) ∧
        v = groupsValue 0 (pre ++ [x]) ∧ c' = ⟨rest, c.pos + pre.length + 1⟩) ∧
    (∀ (c c' : Cursor) (v : Nat), c.readVarU32 = .ok (v, c') ↔
      ∃ pre x rest, c.rest = pre ++ x :: rest ∧ (∀ y ∈ pre, 128 ≤ y.toNat) ∧ x.toNat < 128 ∧
        pre.length < 5 ∧ v = groupsValue 0 (pre ++ [x]) ∧ v < 2 ^ (32 : Nat) ∧
        c' = ⟨rest, c.pos + pre.length + 1⟩) ∧
    (∀ (c : Cursor) (e : StreamError), c.readVarU64 = .error e →
      e = if c.rest.length < 10 ∧ ∀ y ∈ c.rest, 128 ≤ y.toNat then
        .unexpectedEnd (c.rest.length + 1) c.rest.length else .invalidVarint) ∧
    (∀ (c : Cursor) (e : StreamError), c.readVarU32 = .error e →
      e = if c.rest.length < 5 ∧ ∀ y ∈ c.rest, 128 ≤ y.toNat then
        .unexpectedEnd (c.rest.length + 1) c.rest.length else .invalidVarint) := by
  refine ⟨fun v hv => ?_, fun _ _ _ => Cursor.readVarU64_eq_ok_iff,
    fun _ _ _ => Cursor.readVarU32_eq_ok_iff_groups, fun _ _ => Cursor.readVarU64_eq_error,
    fun _ _ => Cursor.readVarU32_eq_error⟩
  -- a value below `2 ^ 64 = 128 ^ 10` takes at most ten groups
  have hlen : varintLen v ≤ 10 := varintLen_le (by decide) (lt_of_lt_of_le hv (by decide))
  exact ⟨length_encodeVarint v, varintLen_pos v, hlen, fun c s hc =>
    ⟨Cursor.readVarU64_of_rest hc hv, fun h32 => Cursor.readVarU32_of_rest hc h32⟩⟩

/-- The largest 64-bit value takes all ten groups and is read back from them. -/
theorem varint_codec_largest :
    (2 ^ (64 : Nat) - 1 : Nat) < 2 ^ (64 : Nat) ∧
      (Cursor.init (encodeVarint (2 ^ (64 : Nat) - 1) ++ [7])).readVarU64 =
        .ok (2 ^ (64 : Nat) - 1, ⟨[7], varintLen (2 ^ (64 : Nat) - 1)⟩) :=
  ⟨by decide, by
    simpa [Cursor.init] using ((varint_codec.1 (2 ^ (64 : Nat) - 1) (by decide)).2.2.2 (Cursor.init _) [7] rfl).1⟩

end EntitySync
