import EntitySync.Float.Format
/-!
# Single-precision values

Field values of float kind are single-precision numbers, kept as their bit patterns so that
NaN payloads and the sign of zero survive every step. A double becomes one by rounding to the
nearest value, a tie to the even one.
-/

namespace EntitySync

/-- A single-precision value, kept as its bit pattern. -/
structure Binary32 where
  bits : UInt32
  deriving DecidableEq, Repr

namespace Binary32

/-- The value with the given bit pattern (bits above the 32nd dropped). -/
def ofBits (n : Nat) : Binary32 := ⟨UInt32.ofNat n⟩

def zero : Binary32 := ⟨0⟩

def value (x : Binary32) : BinaryValue := BinaryFormat.binary32.decode x.bits.toNat

/-- The single-precision value nearest to a double-precision one. -/
def ofBinary64 (bits64 : Nat) : Binary32 :=
  match BinaryFormat.binary64.decode bits64 with
  | .finite neg mant exp => ofBits (BinaryFormat.binary32.roundFinite neg mant exp)
  | .infinite neg => ofBits (BinaryFormat.binary32.infBits neg)
  | .nan =>
    let f := BinaryFormat.binary64.fracOf bits64
    ofBits (BinaryFormat.binary32.signOf (BinaryFormat.binary64.negOf bits64) + 0x7FC00000 +
      f / 2 ^ (29 : Nat) % 2 ^ (22 : Nat))

end Binary32

end EntitySync
