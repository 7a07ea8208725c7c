import EntitySync.Proofs.Codes
/-!
# What the byte-level readers accept

The other half of reading back what was written: every byte string that a reader of the wire
codes accepts is one that the grammar of its code allows. A fixed-width word is any bytes of its
width and is their little-endian number; a signed word is the two's-complement pattern of the
value read. A varint is any run of seven-bit groups whose bytes but the last have their top bit
set (`Varint`), also when it is longer than it needs to be: the reader takes at most five groups
and a value below `2 ^ 32`. A NUL-terminated string is the UTF-8 bytes of the string read, with
no NUL among them and within the bound, and its terminator.
-/

namespace EntitySync

/-! ## Fixed-width words -/

theorem ofLE_lt (bs : Bytes) : ofLE bs < 2 ^ (8 * bs.length) := by
  induction bs with
  | nil => simp
  | cons b bs ih =>
    have hb := b.toNat_lt
    rw [ofLE_cons, List.length_cons, show 8 * (bs.length + 1) = 8 + 8 * bs.length by ring,
      Nat.pow_add]
    simp only [Nat.reducePow] at hb ⊢
    omega

theorem toLE_ofLE (bs : Bytes) : toLE bs.length (ofLE bs) = bs := by
  induction bs with
  | nil => rfl
  | cons b bs ih =>
    have hb := b.toNat_lt
    simp only [Nat.reducePow] at hb
    have hmod : (b.toNat + 256 * ofLE bs) % 256 = b.toNat := by omega
    have hdiv : (b.toNat + 256 * ofLE bs) / 256 = ofLE bs := by omega
    rw [List.length_cons, toLE, ofLE_cons, hmod, hdiv, ih, UInt8.ofNat_toNat]

theorem toLE_ofLE_of_length {bs : Bytes} {w : Nat} (h : bs.length = w) : toLE w (ofLE bs) = bs := by
  subst h
  exact toLE_ofLE bs

theorem signedOf_mem {w n : Nat} (hw : 0 < w) (hn : n < 2 ^ (8 * w)) :
    -((2 ^ (8 * w - 1) : Nat) : Int) ≤ signedOf w n ∧ signedOf w n < (2 ^ (8 * w - 1) : Nat) := by
  have hm : 2 ^ (8 * w) = 2 * 2 ^ (8 * w - 1) := by
    rw [← Nat.pow_succ']
    congr 1
    omega
  unfold signedOf
  split_ifs <;> omega

theorem twosComplement_signedOf {w n : Nat} (hn : n < 2 ^ (8 * w)) :
    twosComplement w (signedOf w n) = n := by
  have hpos : 0 < 2 ^ (8 * w) := Nat.two_pow_pos _
  unfold twosComplement signedOf
  split_ifs
  · rw [Int.emod_eq_of_lt (by omega) (by omega)]
    rfl
  · rw [Int.sub_emod, Int.emod_self, Int.sub_zero, Int.emod_emod_of_dvd _ (dvd_refl _),
      Int.emod_eq_of_lt (by omega) (by omega)]
    rfl

/-! ## Varints -/

/-- `bs` is a varint of `v`: seven-bit groups, lowest first, with the top bit set on every byte
but the last. A varint may take more groups than its value needs. -/
inductive Varint : Nat → Bytes → Prop
  | last {b : UInt8} (hb : b.toNat < 128) : Varint b.toNat [b]
  | more {b : UInt8} {v : Nat} {bs : Bytes} (hb : 128 ≤ b.toNat) (h : Varint v bs) :
      Varint (b.toNat % 128 + 128 * v) (b :: bs)

/-- The reader takes the groups of a varint that ends within `maxBytes` groups, and gives its
value scaled to the place of its first group. -/
theorem decodeVarintFrom_of_varint {v idx maxBytes : Nat} {vb : Bytes} (rest : Bytes)
    (h : Varint v vb) (hlen : idx + vb.length ≤ maxBytes) (hmax : maxBytes ≤ 9) :
    decodeVarintFrom maxBytes idx (vb ++ rest) = .ok (v * 128 ^ idx, idx + vb.length) := by
  induction h generalizing idx with
  | @last b hb =>
    simp only [List.length_singleton] at hlen
    simp [decodeVarintFrom, show ¬ maxBytes ≤ idx by omega, show ¬ 7 * idx = 63 by omega, hb,
      Nat.mod_eq_of_lt hb]
  | @more b v bs hb h ih =>
    simp only [List.length_cons] at hlen
    simp only [List.cons_append, decodeVarintFrom, show ¬ maxBytes ≤ idx by omega,
      show ¬ 7 * idx = 63 by omega, false_and, if_false, show ¬ b.toNat < 128 by omega,
      @ih (idx + 1) (by omega), List.length_cons, Except.ok.injEq, Prod.mk.injEq]
    constructor
    · rw [Nat.pow_succ]
      ring
    · omega

theorem varint_of_decodeVarintFrom {idx maxBytes w n : Nat} {r : Bytes}
    (h : decodeVarintFrom maxBytes idx r = .ok (w, n)) :
    ∃ vb v, r = vb ++ r.drop vb.length ∧ Varint v vb ∧ idx + vb.length ≤ maxBytes ∧
      w = v * 128 ^ idx ∧ n = idx + vb.length := by
  induction r generalizing idx w n with
  | nil =>
    simp only [decodeVarintFrom] at h
    split_ifs at h
  | cons b rest ih =>
    simp only [decodeVarintFrom] at h
    split_ifs at h with _ _ hb
    · -- the last group
      cases h
      exact ⟨[b], b.toNat, by simp, .last hb, by simp; omega, by rw [Nat.mod_eq_of_lt hb], rfl⟩
    · -- a group with more to come
      split at h
      next v' n' hrest =>
        cases h
        obtain ⟨vb, v, hvb, hv, hlen, rfl, rfl⟩ := ih hrest
        refine ⟨b :: vb, b.toNat % 128 + 128 * v, by simp [← hvb], .more (by omega) hv,
          by simp; omega, ?_, by simp; omega⟩
        rw [Nat.pow_succ]
        ring
      next => cases h

theorem decodeVarU32_eq_ok_iff {r : Bytes} {v n : Nat} :
    decodeVarU32 r = .ok (v, n) ↔
      ∃ vb, r = vb ++ r.drop vb.length ∧ Varint v vb ∧ vb.length ≤ 5 ∧ v < 2 ^ (32 : Nat) ∧ n = vb.length := by
  constructor
  · intro h
    unfold decodeVarU32 decodeVarint at h
    split at h
    next w k hdec =>
      split_ifs at h with hw
      cases h
      obtain ⟨vb, v, hvb, hv, hlen, rfl, rfl⟩ := varint_of_decodeVarintFrom hdec
      exact ⟨vb, hvb, by simpa using hv, by omega, by simpa using hw, by simp⟩
    next => cases h
  · rintro ⟨vb, hvb, hv, hlen, hlt, rfl⟩
    have hdec : decodeVarintFrom 5 0 (vb ++ r.drop vb.length) = .ok (v * 128 ^ (0 : Nat), 0 + vb.length) :=
      decodeVarintFrom_of_varint _ hv (by omega) (by decide)
    rw [← hvb] at hdec
    simp [decodeVarU32, decodeVarint, hdec, hlt]

/-! ## UTF-8 -/

theorem scalarAtLeast_eq_some {least n : Nat} {c : Char} (h : scalarAtLeast least n = some c) :
    c.toNat = n ∧ least ≤ n ∧ n < 0x110000 ∧ ¬(0xD800 ≤ n ∧ n < 0xE000) := by
  unfold scalarAtLeast at h
  split_ifs at h with hn
  cases h
  refine ⟨?_, hn⟩
  rw [Char.toNat_ofNat, if_pos (show n < 0xd800 ∨ (0xdfff < n ∧ n < 0x110000) by omega)]

theorem encodeChar_ofNat_of_lt {b : UInt8} (h : b.toNat < 0x80) :
    encodeChar (Char.ofNat b.toNat) = [b] := by
  have hc : (Char.ofNat b.toNat).toNat = b.toNat := by
    rw [Char.toNat_ofNat, if_pos (show b.toNat < 0xd800 ∨ (0xdfff < b.toNat ∧ b.toNat < 0x110000) by omega)]
  simp only [encodeChar, hc, if_pos h, UInt8.ofNat_toNat]

theorem encodeChar_two {b0 b1 : UInt8} {c : Char} (h0 : b0.toNat / 32 = 6)
    (h1 : isContinuation b1 = true)
    (hc : scalarAtLeast 0x80 ((b0.toNat % 32) * 64 + b1.toNat % 64) = some c) :
    encodeChar c = [b0, b1] := by
  obtain ⟨hn, hlo, -, -⟩ := scalarAtLeast_eq_some hc
  have h1' : b1.toNat / 64 = 2 := by simpa [isContinuation] using h1
  simp only [encodeChar, hn, if_neg (show ¬ (b0.toNat % 32) * 64 + b1.toNat % 64 < 0x80 by omega),
    if_pos (show (b0.toNat % 32) * 64 + b1.toNat % 64 < 0x800 by omega), List.cons.injEq, and_true]
  exact ⟨(UInt8.ofNat_eq_iff_mod_eq_toNat _ _).mpr (by omega),
    (UInt8.ofNat_eq_iff_mod_eq_toNat _ _).mpr (by omega)⟩

theorem encodeChar_three {b0 b1 b2 : UInt8} {c : Char} (h0 : b0.toNat / 16 = 14)
    (h1 : isContinuation b1 = true) (h2 : isContinuation b2 = true)
    (hc : scalarAtLeast 0x800 ((b0.toNat % 16) * 4096 + (b1.toNat % 64) * 64 + b2.toNat % 64) = some c) :
    encodeChar c = [b0, b1, b2] := by
  obtain ⟨hn, hlo, -, -⟩ := scalarAtLeast_eq_some hc
  have h1' : b1.toNat / 64 = 2 := by simpa [isContinuation] using h1
  have h2' : b2.toNat / 64 = 2 := by simpa [isContinuation] using h2
  simp only [encodeChar, hn, if_neg (show ¬ (b0.toNat % 16) * 4096 + (b1.toNat % 64) * 64 +
      b2.toNat % 64 < 0x80 by omega),
    if_neg (show ¬ (b0.toNat % 16) * 4096 + (b1.toNat % 64) * 64 + b2.toNat % 64 < 0x800 by omega),
    if_pos (show (b0.toNat % 16) * 4096 + (b1.toNat % 64) * 64 + b2.toNat % 64 < 0x10000 by omega),
    List.cons.injEq, and_true]
  exact ⟨(UInt8.ofNat_eq_iff_mod_eq_toNat _ _).mpr (by omega),
    (UInt8.ofNat_eq_iff_mod_eq_toNat _ _).mpr (by omega),
    (UInt8.ofNat_eq_iff_mod_eq_toNat _ _).mpr (by omega)⟩

theorem encodeChar_four {b0 b1 b2 b3 : UInt8} {c : Char} (h0 : b0.toNat / 8 = 30)
    (h1 : isContinuation b1 = true) (h2 : isContinuation b2 = true) (h3 : isContinuation b3 = true)
    (hc : scalarAtLeast 0x10000 ((b0.toNat % 8) * 262144 + (b1.toNat % 64) * 4096
      + (b2.toNat % 64) * 64 + b3.toNat % 64) = some c) :
    encodeChar c = [b0, b1, b2, b3] := by
  obtain ⟨hn, hlo, hhi, -⟩ := scalarAtLeast_eq_some hc
  have h1' : b1.toNat / 64 = 2 := by simpa [isContinuation] using h1
  have h2' : b2.toNat / 64 = 2 := by simpa [isContinuation] using h2
  have h3' : b3.toNat / 64 = 2 := by simpa [isContinuation] using h3
  simp only [encodeChar, hn, if_neg (show ¬ (b0.toNat % 8) * 262144 + (b1.toNat % 64) * 4096
      + (b2.toNat % 64) * 64 + b3.toNat % 64 < 0x80 by omega),
    if_neg (show ¬ (b0.toNat % 8) * 262144 + (b1.toNat % 64) * 4096
      + (b2.toNat % 64) * 64 + b3.toNat % 64 < 0x800 by omega),
    if_neg (show ¬ (b0.toNat % 8) * 262144 + (b1.toNat % 64) * 4096
      + (b2.toNat % 64) * 64 + b3.toNat % 64 < 0x10000 by omega),
    List.cons.injEq, and_true]
  exact ⟨(UInt8.ofNat_eq_iff_mod_eq_toNat _ _).mpr (by omega),
    (UInt8.ofNat_eq_iff_mod_eq_toNat _ _).mpr (by omega),
    (UInt8.ofNat_eq_iff_mod_eq_toNat _ _).mpr (by omega),
    (UInt8.ofNat_eq_iff_mod_eq_toNat _ _).mpr (by omega)⟩

theorem decodeUtf8_cons_eq_some {b0 : UInt8} {rest : Bytes} {cs : List Char}
    (h : decodeUtf8 (b0 :: rest) = some cs) :
    ∃ c cs' post, cs = c :: cs' ∧ b0 :: rest = encodeChar c ++ post ∧ post.length ≤ rest.length ∧
      decodeUtf8 post = some cs' := by
  rw [decodeUtf8.eq_def] at h
  simp only at h
  -- the lead byte decides the length of the character
  split_ifs at h with hlead h6 h14 h30
  · obtain ⟨cs', hcs', rfl⟩ := Option.map_eq_some_iff.mp h
    exact ⟨_, cs', rest, rfl, by rw [encodeChar_ofNat_of_lt hlead]; rfl, le_refl _, hcs'⟩
  · split at h
    · cases h
    next b1 rest1 =>
    split_ifs at h with hc1
    split at h
    next c hc =>
      obtain ⟨cs', hcs', rfl⟩ := Option.map_eq_some_iff.mp h
      refine ⟨c, cs', rest1, rfl, ?_, by simp, hcs'⟩
      rw [encodeChar_two h6 (by simpa using hc1) hc]
      rfl
    next => cases h
  · split at h
    · cases h
    next b1 rest1 =>
    split_ifs at h with hc1
    split at h
    · cases h
    next b2 rest2 =>
    split_ifs at h with hc2
    split at h
    next c hc =>
      obtain ⟨cs', hcs', rfl⟩ := Option.map_eq_some_iff.mp h
      refine ⟨c, cs', rest2, rfl, ?_, by simp; omega, hcs'⟩
      rw [encodeChar_three h14 (by simpa using hc1) (by simpa using hc2) hc]
      rfl
    next => cases h
  · split at h
    · cases h
    next b1 rest1 =>
    split_ifs at h with hc1
    split at h
    · cases h
    next b2 rest2 =>
    split_ifs at h with hc2
    split at h
    · cases h
    next b3 rest3 =>
    split_ifs at h with hc3
    split at h
    next c hc =>
      obtain ⟨cs', hcs', rfl⟩ := Option.map_eq_some_iff.mp h
      refine ⟨c, cs', rest3, rfl, ?_, by simp; omega, hcs'⟩
      rw [encodeChar_four h30 (by simpa using hc1) (by simpa using hc2) (by simpa using hc3) hc]
      rfl
    next => cases h
  · -- no other lead byte starts a character
    split at h
    · cases h
    split_ifs at h
    split at h
    · cases h
    split_ifs at h
    split at h
    · cases h
    split_ifs at h

theorem decodeUtf8_eq_some {t : Bytes} {cs : List Char} (h : decodeUtf8 t = some cs) :
    t = cs.flatMap encodeChar := by
  -- on the length: a character takes at least one byte
  induction hn : t.length using Nat.strong_induction_on generalizing t cs with
  | _ n ih =>
    cases t with
    | nil =>
      simp only [decodeUtf8, Option.some.injEq] at h
      simp [← h]
    | cons b0 rest =>
      obtain ⟨c, cs', post, rfl, ht, hlen, hpost⟩ := decodeUtf8_cons_eq_some h
      rw [ht, ih post.length (by simp at hn; omega) hpost rfl, List.flatMap_cons]

theorem encodeUtf8_of_stringOfUtf8 {t : Bytes} {s : String} (h : stringOfUtf8 t = some s) :
    encodeUtf8 s = t := by
  unfold stringOfUtf8 at h
  obtain ⟨cs, hcs, rfl⟩ := Option.map_eq_some_iff.mp h
  rw [encodeUtf8, String.toList_ofList, ← decodeUtf8_eq_some hcs]

namespace Cursor

variable {c c' : Cursor}

theorem take_eq_ok {n : Nat} {bs : Bytes} (h : c.take n = .ok (bs, c')) :
    c.rest = bs ++ c'.rest ∧ bs.length = n ∧ c'.pos = c.pos + n := by
  unfold take at h
  split_ifs at h with hn
  cases h
  simp [hn]

theorem readVarU32_eq_ok_iff {v : Nat} :
    c.readVarU32 = .ok (v, c') ↔
      ∃ vb, Varint v vb ∧ vb.length ≤ 5 ∧ v < 2 ^ (32 : Nat) ∧ c.rest = vb ++ c'.rest ∧
        c'.pos = c.pos + vb.length := by
  constructor
  · intro h
    simp only [readVarU32, bind, Except.bind] at h
    split at h
    · cases h
    next p hdec =>
      obtain ⟨w, k⟩ := p
      cases h
      obtain ⟨vb, hvb, hv, hlen, hlt, rfl⟩ := decodeVarU32_eq_ok_iff.mp hdec
      exact ⟨vb, hv, hlen, hlt, hvb, rfl⟩
  · rintro ⟨vb, hv, hlen, hlt, hrest, hpos⟩
    have hdec : decodeVarU32 c.rest = .ok (v, vb.length) :=
      decodeVarU32_eq_ok_iff.mpr ⟨vb, by simp [hrest], hv, hlen, hlt, rfl⟩
    obtain ⟨rest', pos'⟩ := c'
    simp only at hrest hpos
    rw [hrest] at hdec
    simp [readVarU32, hdec, hrest, hpos, bind, Except.bind, pure, Except.pure]

/-- A string read takes the UTF-8 bytes of the string, which hold no NUL and keep within the
bound, and the terminator after them. -/
theorem readString_eq_ok {s : String} {maxLen : Nat} (h : c.readString maxLen = .ok (s, c')) :
    c.rest = encodeUtf8 s ++ 0 :: c'.rest ∧ c'.pos = c.pos + (encodeUtf8 s).length + 1 ∧
      (encodeUtf8 s).length ≤ maxLen ∧ 0 ∉ encodeUtf8 s := by
  unfold readString at h
  dsimp only at h
  split at h
  · split_ifs at h
  next nul hfind =>
  split at h
  · next s' hs =>
    cases h
    obtain ⟨hlt, hzero, hbefore⟩ := List.findIdx?_eq_some_iff_getElem.mp hfind
    have hbound : nul ≤ maxLen := by
      simp only [List.length_take, satAdd] at hlt
      omega
    have hnul : nul < c.rest.length := by
      simp only [List.length_take] at hlt
      omega
    rw [encodeUtf8_of_stringOfUtf8 hs]
    refine ⟨?_, by simp; omega, by simp; omega, fun hmem => ?_⟩
    · -- the terminator stands right after the string
      have h0 : c.rest[nul] = 0 := by simpa using hzero
      conv_lhs => rw [← List.take_append_drop nul c.rest]
      rw [List.drop_eq_getElem_cons hnul, h0]
    · obtain ⟨j, hj, hjz⟩ := List.getElem_of_mem hmem
      simp only [List.length_take] at hj
      exact hbefore j (by omega) (by simpa using hjz)
  · cases h

end Cursor

end EntitySync
