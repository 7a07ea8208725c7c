import EntitySync.Proofs.Output
import EntitySync.FieldBlock.Reader
/-!
# Reading back what was written

The byte-level codes read back what their writers produce, with any bytes after it: fixed-width
little-endian words, varints, two's-complement integers, UTF-8 text, NUL-terminated strings and
field masks. Each statement puts the written bytes at the front of a cursor's remaining input
and says what the read returns and where the cursor stands after it.
-/

namespace EntitySync

theorem ofLE_toLE (w n : Nat) : ofLE (toLE w n) = n % 2 ^ (8 * w) := by
  induction w generalizing n with
  | zero => simp [toLE, Nat.mod_one]
  | succ w ih =>
    rw [toLE, ofLE_cons, ih, UInt8.toNat_ofNat', show 8 * (w + 1) = 8 + 8 * w by ring, Nat.pow_add,
      Nat.mod_mul]
    simp

theorem ofLE_toLE_of_lt {w n : Nat} (h : n < 2 ^ (8 * w)) : ofLE (toLE w n) = n := by
  rw [ofLE_toLE, Nat.mod_eq_of_lt h]

/-! ## Two's complement -/

theorem signedOf_twosComplement {w : Nat} {v : Int} (hw : 0 < w) (lo : -(2 ^ (8 * w - 1) : Nat) ≤ v)
    (hi : v < (2 ^ (8 * w - 1) : Nat)) :
    signedOf w (ofLE (toLE w (twosComplement w v))) = v := by
  have hm : (2 ^ (8 * w) : Nat) = 2 * 2 ^ (8 * w - 1) := by
    rw [← Nat.pow_succ']
    congr 1
    omega
  have hpos : (0 : Int) < (2 ^ (8 * w) : Nat) := by exact_mod_cast Nat.two_pow_pos _
  have hlt : twosComplement w v < 2 ^ (8 * w) := by
    unfold twosComplement
    have := Int.emod_lt_of_pos v hpos
    omega
  rw [ofLE_toLE_of_lt hlt]
  unfold signedOf twosComplement
  rcases Int.lt_or_le v 0 with hneg | hnn
  · have he : v % (2 ^ (8 * w) : Nat) = v + (2 ^ (8 * w) : Nat) := by
      rw [← Int.add_emod_right, Int.emod_eq_of_lt (by omega) (by omega)]
    rw [he, if_neg (by omega)]
    omega
  · rw [Int.emod_eq_of_lt hnn (by omega), if_pos (by omega)]
    omega

/-! ## Varints -/

theorem varintLen_pos (v : Nat) : 0 < varintLen v := by
  rw [varintLen]
  split <;> omega

theorem varintLen_le {v k : Nat} (hk : 0 < k) (h : v < 128 ^ k) : varintLen v ≤ k := by
  induction v using Nat.strongRecOn generalizing k with
  | ind v ih =>
    rw [varintLen]
    split
    · exact hk
    · obtain ⟨j, rfl⟩ : ∃ j, k = j + 1 := ⟨k - 1, by omega⟩
      have hj : 0 < j := by
        rcases Nat.eq_zero_or_pos j with rfl | hj
        · simp at h; omega
        · exact hj
      have := ih (v / 128) (by omega) hj (by rw [Nat.pow_succ] at h; omega)
      omega

/-- Reading the groups of an encoding that starts at group `idx`: the value comes back scaled
to its place, provided the encoding ends within `maxBytes` groups and the scaled value is a
64-bit one. -/
theorem decodeVarintFrom_encodeVarint (v idx maxBytes : Nat) (rest : Bytes)
    (hlen : idx + varintLen v ≤ maxBytes) (hv : v * 128 ^ idx < 2 ^ (64 : Nat)) :
    decodeVarintFrom maxBytes idx (encodeVarint v ++ rest) =
      .ok (v * 128 ^ idx, idx + varintLen v) := by
  induction v using Nat.strongRecOn generalizing idx with
  | ind v ih =>
    have hlast : 7 * idx = 63 → v < 2 := by
      intro h9
      have : idx = 9 := by omega
      subst this
      norm_num at hv
      omega
    rw [encodeVarint]
    rw [varintLen] at hlen ⊢
    split
    · next hsmall =>
      rw [if_pos hsmall] at hlen
      simp only [List.singleton_append, decodeVarintFrom, UInt8.toNat_ofNat']
      rw [if_neg (by omega), if_neg (by omega), if_pos (by omega)]
      simp only [Nat.mod_eq_of_lt (show v < 2 ^ (8 : Nat) by omega)]
      rw [Nat.mod_eq_of_lt hsmall]
    · next hbig =>
      rw [if_neg hbig] at hlen
      have hrec := ih (v / 128) (by omega) (idx + 1) (by omega) (by
        calc v / 128 * 128 ^ (idx + 1) = v / 128 * 128 * 128 ^ idx := by ring
          _ ≤ v * 128 ^ idx := Nat.mul_le_mul_right _ (Nat.div_mul_le_self v 128)
          _ < 2 ^ (64 : Nat) := hv)
      simp only [List.cons_append, decodeVarintFrom, UInt8.toNat_ofNat']
      have hbyte : (v % 128 + 128) % 2 ^ (8 : Nat) = v % 128 + 128 := Nat.mod_eq_of_lt (by omega)
      rw [if_neg (by omega), hbyte, if_neg (by omega), if_neg (by omega), hrec]
      have hsum : (v % 128 + 128) % 128 * 128 ^ idx + v / 128 * 128 ^ (idx + 1) = v * 128 ^ idx := by
        have := Nat.mod_add_div v 128
        calc (v % 128 + 128) % 128 * 128 ^ idx + v / 128 * 128 ^ (idx + 1)
            = (v % 128 + 128 * (v / 128)) * 128 ^ idx := by
              rw [Nat.add_mod_right, Nat.mod_mod]
              ring
          _ = v * 128 ^ idx := by rw [this]
      simp only [hsum]
      congr 2
      omega

theorem decodeVarint_encodeVarint {v maxBytes : Nat} (rest : Bytes) (hlen : varintLen v ≤ maxBytes)
    (hv : v < 2 ^ (64 : Nat)) : decodeVarint maxBytes (encodeVarint v ++ rest) = .ok (v, varintLen v) := by
  have := decodeVarintFrom_encodeVarint v 0 maxBytes rest (by omega) (by simpa using hv)
  simpa [decodeVarint] using this

theorem decodeVarU32_encodeVarint {v : Nat} (rest : Bytes) (hv : v < 2 ^ (32 : Nat)) :
    decodeVarU32 (encodeVarint v ++ rest) = .ok (v, varintLen v) := by
  rw [decodeVarU32, decodeVarint_encodeVarint rest (varintLen_le (by decide) (by omega)) (by omega)]
  simp only [if_pos hv]

/-! ## UTF-8 -/

theorem decodeUtf8_cons_of_lt {b : UInt8} (rest : Bytes) (h : b.toNat < 0x80) :
    decodeUtf8 (b :: rest) = (decodeUtf8 rest).map (Char.ofNat b.toNat :: ·) := by
  rw [decodeUtf8.eq_def]
  simp [h]

theorem decodeUtf8_two {b0 b1 : UInt8} {c : Char} (rest : Bytes) (h0 : b0.toNat / 32 = 6)
    (h1 : isContinuation b1) (hc : scalarAtLeast 0x80 ((b0.toNat % 32) * 64 + b1.toNat % 64) = some c) :
    decodeUtf8 (b0 :: b1 :: rest) = (decodeUtf8 rest).map (c :: ·) := by
  rw [decodeUtf8.eq_def]
  simp [h1, h0, hc, show ¬ b0.toNat < 128 by omega]

theorem decodeUtf8_three {b0 b1 b2 : UInt8} {c : Char} (rest : Bytes) (h0 : b0.toNat / 16 = 14)
    (h1 : isContinuation b1) (h2 : isContinuation b2)
    (hc : scalarAtLeast 0x800 ((b0.toNat % 16) * 4096 + (b1.toNat % 64) * 64 + b2.toNat % 64) = some c) :
    decodeUtf8 (b0 :: b1 :: b2 :: rest) = (decodeUtf8 rest).map (c :: ·) := by
  rw [decodeUtf8.eq_def]
  simp [h1, h2, h0, hc, show ¬ b0.toNat < 128 by omega, show ¬ b0.toNat / 32 = 6 by omega]

theorem decodeUtf8_four {b0 b1 b2 b3 : UInt8} {c : Char} (rest : Bytes) (h0 : b0.toNat / 8 = 30)
    (h1 : isContinuation b1) (h2 : isContinuation b2) (h3 : isContinuation b3)
    (hc : scalarAtLeast 0x10000 ((b0.toNat % 8) * 262144 + (b1.toNat % 64) * 4096
      + (b2.toNat % 64) * 64 + b3.toNat % 64) = some c) :
    decodeUtf8 (b0 :: b1 :: b2 :: b3 :: rest) = (decodeUtf8 rest).map (c :: ·) := by
  rw [decodeUtf8.eq_def]
  simp [h1, h2, h3, h0, hc, show ¬ b0.toNat < 128 by omega, show ¬ b0.toNat / 32 = 6 by omega,
    show ¬ b0.toNat / 16 = 14 by omega]

theorem decodeUtf8_encodeChar (c : Char) (rest : Bytes) :
    decodeUtf8 (encodeChar c ++ rest) = (decodeUtf8 rest).map (c :: ·) := by
  have hv : c.toNat < 0xD800 ∨ (0xDFFF < c.toNat ∧ c.toNat < 0x110000) := c.valid
  have hc : Char.ofNat c.toNat = c := Char.ofNat_toNat c
  have hscalar (least : Nat) (h : least ≤ c.toNat) : scalarAtLeast least c.toNat = some c := by
    rw [scalarAtLeast, if_pos (by omega), hc]
  simp only [encodeChar]
  split_ifs with h1 h2 h3
  · rw [List.singleton_append, decodeUtf8_cons_of_lt rest (by simp; omega)]
    rw [UInt8.toNat_ofNat', Nat.mod_eq_of_lt (show c.toNat < 2 ^ (8 : Nat) by omega), hc]
  · rw [List.cons_append, List.cons_append, List.nil_append]
    refine decodeUtf8_two rest (by simp; omega) (by simp [isContinuation]; omega) ?_
    rw [← hscalar 0x80 (by omega)]
    congr 1
    simp
    omega
  · rw [List.cons_append, List.cons_append, List.cons_append, List.nil_append]
    refine decodeUtf8_three rest (by simp; omega) (by simp [isContinuation]; omega) (by simp [isContinuation]; omega) ?_
    rw [← hscalar 0x800 (by omega)]
    congr 1
    simp
    omega
  · rw [List.cons_append, List.cons_append, List.cons_append, List.cons_append, List.nil_append]
    refine decodeUtf8_four rest (by simp; omega) (by simp [isContinuation]; omega) (by simp [isContinuation]; omega) (by simp [isContinuation]; omega) ?_
    rw [← hscalar 0x10000 (by omega)]
    congr 1
    simp
    omega

theorem decodeUtf8_encodeUtf8 (s : String) : decodeUtf8 (encodeUtf8 s) = some s.toList := by
  rw [encodeUtf8]
  induction s.toList with
  | nil => rfl
  | cons c cs ih => rw [List.flatMap_cons, decodeUtf8_encodeChar, ih]; rfl

theorem stringOfUtf8_encodeUtf8 (s : String) : stringOfUtf8 (encodeUtf8 s) = some s := by
  simp [stringOfUtf8, decodeUtf8_encodeUtf8]

/-! ## Field masks -/

theorem testBit_flagByte (fs : List Bool) (i : Nat) : (flagByte fs).testBit i = fs.getD i false := by
  induction fs generalizing i with
  | nil => simp [flagByte]
  | cons f fs ih =>
    cases i with
    | zero => cases f <;> simp [flagByte, Nat.testBit_zero]
    | succ i =>
      have hhalf : ((if f then 1 else 0) + 2 * flagByte fs) / 2 = flagByte fs := by
        split <;> omega
      rw [Nat.testBit_add_one, flagByte, hhalf, ih i]
      rfl

theorem flagByte_lt (fs : List Bool) : flagByte fs < 2 ^ fs.length := by
  induction fs with
  | nil => simp [flagByte]
  | cons f fs ih =>
    cases f <;> simp [flagByte, Nat.pow_succ] <;> omega

theorem take_byteFlags_flagByte {fs : List Bool} (h : fs.length ≤ 8) :
    (byteFlags (UInt8.ofNat (flagByte fs))).take fs.length = fs := by
  have hlt : flagByte fs < 256 :=
    Nat.lt_of_lt_of_le (flagByte_lt fs) (Nat.pow_le_pow_right (by decide) h)
  apply List.ext_getElem
  · simp [byteFlags]; omega
  · intro i h1 h2
    simp [byteFlags, UInt8.toNat_ofNat', Nat.mod_eq_of_lt hlt, testBit_flagByte, h2]

theorem length_byteFlags (b : UInt8) : (byteFlags b).length = 8 := by simp [byteFlags]

theorem take_unpackMask_packFlags (fl : List Bool) : (unpackMask (packFlags fl)).take fl.length = fl := by
  fun_induction packFlags fl with
  | case1 fl h => simp at h; simp [h]
  | case2 fl h ih =>
    have hhead : (byteFlags (UInt8.ofNat (flagByte (fl.take 8)))).take fl.length = fl.take 8 := by
      have h8 := take_byteFlags_flagByte (show (fl.take 8).length ≤ 8 by simp)
      rw [List.length_take] at h8
      refine Eq.trans ?_ h8
      rw [List.take_eq_take_iff, length_byteFlags]
      omega
    rw [unpackMask, List.flatMap_cons, ← unpackMask, List.take_append, hhead,
      length_byteFlags, show fl.length - 8 = (fl.drop 8).length by simp, ih, List.take_append_drop]

/-! ## Float codes -/

theorem FloatCodec.fromBits_ofLE_toLE (c : FloatCodec) (y : Binary32) :
    c.fromBits (ofLE (toLE c.wireSize (c.toBits y))) = c.quantize y := by
  cases c with
  | full =>
    have hy : y.bits.toNat < 2 ^ (8 * 4) := y.bits.toNat_lt
    simp [FloatCodec.fromBits, FloatCodec.toBits, FloatCodec.quantize, FloatCodec.wireSize,
      ofLE_toLE_of_lt hy, Binary32.ofBits]
  | half => simp [FloatCodec.fromBits, FloatCodec.toBits, FloatCodec.quantize, FloatCodec.wireSize, ofLE_toLE]
  | angle => simp [FloatCodec.fromBits, FloatCodec.toBits, FloatCodec.quantize, FloatCodec.wireSize, ofLE_toLE]

namespace Cursor

variable {c : Cursor} {bs rest : Bytes}

theorem take_of_rest (h : c.rest = bs ++ rest) :
    c.take bs.length = .ok (bs, ⟨rest, c.pos + bs.length⟩) := by
  simp [take, h]

theorem readVarU32_of_rest {v : Nat} (h : c.rest = encodeVarint v ++ rest) (hv : v < 2 ^ (32 : Nat)) :
    c.readVarU32 = .ok (v, ⟨rest, c.pos + varintLen v⟩) := by
  simp [readVarU32, h, decodeVarU32_encodeVarint rest hv, bind, Except.bind, pure, Except.pure]

theorem readUInt_of_rest {w n : Nat} (h : c.rest = toLE w n ++ rest) (hn : n < 2 ^ (8 * w)) :
    c.readUInt w = .ok (n, ⟨rest, c.pos + w⟩) := by
  have := take_of_rest h
  rw [length_toLE] at this
  simp [readUInt, this, ofLE_toLE_of_lt hn, bind, Except.bind, pure, Except.pure]

theorem readString_of_rest {s : String} {maxLen : Nat} (h : c.rest = encodeUtf8 s ++ 0 :: rest)
    (hlen : (encodeUtf8 s).length ≤ maxLen) (hnul : 0 ∉ encodeUtf8 s)
    (hsize : (encodeUtf8 s).length < maxSize) :
    c.readString maxLen = .ok (s, ⟨rest, c.pos + (encodeUtf8 s).length + 1⟩) := by
  -- the window the terminator is looked for in reaches past it, also when the bound saturates
  have hbound : (encodeUtf8 s).length < satAdd maxLen 1 := by simp [satAdd]; omega
  have hwindow : c.rest.take (satAdd maxLen 1) =
      encodeUtf8 s ++ 0 :: rest.take (satAdd maxLen 1 - (encodeUtf8 s).length - 1) := by
    rw [h, List.take_append, List.take_of_length_le (by omega),
      show satAdd maxLen 1 - (encodeUtf8 s).length =
        satAdd maxLen 1 - (encodeUtf8 s).length - 1 + 1 by omega, List.take_succ_cons,
      Nat.add_sub_cancel]
  have hfind : (encodeUtf8 s ++ 0 :: rest.take (satAdd maxLen 1 - (encodeUtf8 s).length - 1)).findIdx?
      (· == 0) = some (encodeUtf8 s).length := by
    rw [List.findIdx?_append, List.findIdx?_eq_none_iff.mpr (by
      intro x hx
      simpa using fun h0 : x = 0 => hnul (h0 ▸ hx))]
    simp [List.findIdx?_cons]
  unfold readString
  dsimp only
  rw [hwindow, hfind]
  simp [h, stringOfUtf8_encodeUtf8]

end Cursor

end EntitySync
