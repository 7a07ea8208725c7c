import EntitySync.Float.Binary32
/-!
# Half precision

The half codec stores a single-precision value in the 16 bits of half precision. Narrowing
rounds to nearest with ties to even and overflows to infinity; a NaN keeps its sign and the top
fraction bits, with the quiet bit set over them. Widening is exact, and a NaN is made quiet as
well.
-/

namespace EntitySync

def toHalf (x : Binary32) : Nat :=
  let bits := x.bits.toNat
  match x.value with
  | .nan => BinaryFormat.binary16.signOf (BinaryFormat.binary32.negOf bits) + 0x7E00 |||
      BinaryFormat.binary32.fracOf bits / 2 ^ (13 : Nat)
  | .infinite neg => BinaryFormat.binary16.infBits neg
  | .finite neg mant exp => BinaryFormat.binary16.roundFinite neg mant exp

/-- The single-precision value of a half-precision pattern. -/
def ofHalf (h : Nat) : Binary32 :=
  match BinaryFormat.binary16.decode h with
  | .nan => Binary32.ofBits (BinaryFormat.binary32.signOf (BinaryFormat.binary16.negOf h) +
      0x7FC00000 ||| BinaryFormat.binary16.fracOf h * 2 ^ (13 : Nat))
  | .infinite neg => Binary32.ofBits (BinaryFormat.binary32.infBits neg)
  | .finite neg mant exp => Binary32.ofBits (BinaryFormat.binary32.roundFinite neg mant exp)

end EntitySync
