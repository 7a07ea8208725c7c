import EntitySync.Prelude
/-!
# Ticks and slots

A tick numbers a snapshot; tick 0 is reserved and never names a snapshot on the wire. A slot
numbers an entity within a snapshot, from 1 to 65535.
-/

namespace EntitySync

abbrev Tick := UInt32

/-- The number of an entity, never zero. -/
structure Slot where
  raw : UInt16
  nonzero : raw ≠ 0
  deriving DecidableEq

namespace Slot

/-- The slot numbered `n`, when `n` is a nonzero 16-bit number. -/
def ofNat? (n : Nat) : Option Slot :=
  if h : 0 < n ∧ n < 2 ^ (16 : Nat) then
    some ⟨UInt16.ofNat n, by
      intro heq
      have h1 := congrArg UInt16.toNat heq
      simp [UInt16.toNat_ofNat] at h1
      omega⟩
  else none

def toNat (s : Slot) : Nat := s.raw.toNat

instance : Repr Slot := ⟨fun s _ => repr s.raw.toNat⟩

end Slot

end EntitySync
