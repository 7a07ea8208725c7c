import EntitySync.Stream.Error
import EntitySync.Stream.Word
/-!
# Varints

A varint writes a number in base-128 groups, least significant group first; every byte but the
last has its top bit set. `encodeVarint v` has `varintLen v` bytes, and `decodeVarint k` reads
one back from the front of a byte string, refusing more than `k` groups (5 for 32-bit values,
10 for 64-bit ones) and a tenth group that would carry past bit 63.
-/

namespace EntitySync

/-- The base-128 encoding of `v`, least significant group first. -/
def encodeVarint (v : Nat) : Bytes :=
  if v < 128 then [UInt8.ofNat v] else UInt8.ofNat (v % 128 + 128) :: encodeVarint (v / 128)
termination_by v
decreasing_by omega

/-- The number of bytes in the varint encoding of `v`. -/
def varintLen (v : Nat) : Nat :=
  if v < 128 then 1 else varintLen (v / 128) + 1
termination_by v
decreasing_by omega

/-- Groups of a varint from group `idx` on: the value they add and where the varint ends.
Running out of bytes before `maxBytes` groups asks for one byte more than there was. -/
def decodeVarintFrom (maxBytes : Nat) (idx : Nat) : Bytes → Except StreamError (Nat × Nat)
  | [] => if idx < maxBytes then .error (.unexpectedEnd (idx + 1) idx) else .error .invalidVarint
  | b :: rest =>
    if maxBytes ≤ idx then .error .invalidVarint
    else
      let group := b.toNat % 128
      if 7 * idx = 63 ∧ 1 < group then .error .invalidVarint
      else if b.toNat < 128 then .ok (group * 128 ^ idx, idx + 1)
      else match decodeVarintFrom maxBytes (idx + 1) rest with
        | .ok (v, n) => .ok (group * 128 ^ idx + v, n)
        | .error e => .error e

/-- The varint at the front of `bs`, of at most `maxBytes` groups: its value and its length. -/
def decodeVarint (maxBytes : Nat) (bs : Bytes) : Except StreamError (Nat × Nat) :=
  decodeVarintFrom maxBytes 0 bs

/-- A varint holding a 32-bit value at the front of `bs`: at most five groups, and below
`2 ^ 32`. -/
def decodeVarU32 (bs : Bytes) : Except StreamError (Nat × Nat) :=
  match decodeVarint 5 bs with
  | .ok (v, n) => if v < 2 ^ (32 : Nat) then .ok (v, n) else .error .invalidVarint
  | .error e => .error e

@[simp] theorem length_encodeVarint (v : Nat) : (encodeVarint v).length = varintLen v := by
  fun_induction encodeVarint v with
  | case1 v h => rw [varintLen, if_pos h]; rfl
  | case2 v h ih => rw [varintLen, if_neg h, List.length_cons, ih]

end EntitySync
