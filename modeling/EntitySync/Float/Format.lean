import EntitySync.Prelude
/-!
# Binary floating-point formats

An IEEE-754 binary format is fixed by its exponent and fraction widths. A bit pattern stands
for a signed zero, a signed finite number `m · 2^e`, a signed infinity or a NaN (`decode`).
`roundBits` is the one rounding rule every conversion here uses: a nonnegative rational, with a
sign, goes to the nearest representable value, a tie to the one with an even last bit, and a
value beyond the largest finite one to infinity.
-/

namespace EntitySync

/-- A binary interchange format: the widths of its exponent and fraction fields. -/
structure BinaryFormat where
  expBits : Nat
  fracBits : Nat
  deriving DecidableEq, Repr

/-- A bit pattern read as a number. -/
inductive BinaryValue where
  /-- The value `(-1)^neg · mant · 2^exp`; zero when `mant = 0`. -/
  | finite (neg : Bool) (mant : Nat) (exp : Int)
  | infinite (neg : Bool)
  | nan
  deriving DecidableEq, Repr

namespace BinaryFormat

def binary16 : BinaryFormat := ⟨5, 10⟩

def binary32 : BinaryFormat := ⟨8, 23⟩

def binary64 : BinaryFormat := ⟨11, 52⟩

def bias (f : BinaryFormat) : Nat := 2 ^ (f.expBits - 1) - 1

def topExp (f : BinaryFormat) : Nat := 2 ^ f.expBits - 1

def signBit (f : BinaryFormat) : Nat := 2 ^ (f.expBits + f.fracBits)

def signOf (f : BinaryFormat) (neg : Bool) : Nat := if neg then f.signBit else 0

def infBits (f : BinaryFormat) (neg : Bool) : Nat := f.signOf neg + f.topExp * 2 ^ f.fracBits

def fracOf (f : BinaryFormat) (bits : Nat) : Nat := bits % 2 ^ f.fracBits

def expOf (f : BinaryFormat) (bits : Nat) : Nat := bits / 2 ^ f.fracBits % 2 ^ f.expBits

def negOf (f : BinaryFormat) (bits : Nat) : Bool := bits / f.signBit % 2 == 1

def decode (f : BinaryFormat) (bits : Nat) : BinaryValue :=
  let frac := f.fracOf bits
  let e := f.expOf bits
  let neg := f.negOf bits
  if e = f.topExp then (if frac = 0 then .infinite neg else .nan)
  else if e = 0 then .finite neg frac (1 - (f.bias : Int) - f.fracBits)
  else .finite neg (frac + 2 ^ f.fracBits) ((e : Int) - f.bias - f.fracBits)

def atLeastPow2 (num den : Nat) (e : Int) : Bool :=
  if 0 ≤ e then den * 2 ^ e.toNat ≤ num else den ≤ num * 2 ^ (-e).toNat

/-- The exponent `E` with `2 ^ E ≤ num / den < 2 ^ (E + 1)`, for positive `num` and `den`. -/
def floorLog2 (num den : Nat) : Int :=
  let e : Int := (Nat.log2 num : Int) - Nat.log2 den
  if atLeastPow2 num den e then e else e - 1

/-- The quotient `num / den / 2 ^ e` rounded to an integer, a tie to the even one. -/
def roundScaled (num den : Nat) (e : Int) : Nat :=
  let n := if e ≤ 0 then num * 2 ^ (-e).toNat else num
  let d := if e ≤ 0 then den else den * 2 ^ e.toNat
  let k := n / d
  let r := n % d
  if d < 2 * r ∨ (2 * r = d ∧ k % 2 = 1) then k + 1 else k

/-- The pattern nearest to `(-1)^neg · num / den`, a tie to an even fraction, and past the
largest finite value an infinity. -/
def roundBits (f : BinaryFormat) (neg : Bool) (num den : Nat) : Nat :=
  if num = 0 ∨ den = 0 then f.signOf neg
  else
    let emin : Int := 1 - (f.bias : Int)
    let e0 := max (floorLog2 num den) emin - f.fracBits
    let k0 := roundScaled num den e0
    let carry := k0 = 2 ^ (f.fracBits + 1)
    let k := if carry then 2 ^ f.fracBits else k0
    let e := if carry then e0 + 1 else e0
    if k < 2 ^ f.fracBits then f.signOf neg + k
    else
      let field := e + f.fracBits + f.bias
      if (f.topExp : Int) ≤ field then f.infBits neg
      else f.signOf neg + field.toNat * 2 ^ f.fracBits + (k - 2 ^ f.fracBits)

/-- The pattern of a finite value `(-1)^neg · mant · 2^exp`, rounded as `roundBits` does. -/
def roundFinite (f : BinaryFormat) (neg : Bool) (mant : Nat) (exp : Int) : Nat :=
  if 0 ≤ exp then f.roundBits neg (mant * 2 ^ exp.toNat) 1
  else f.roundBits neg mant (2 ^ (-exp).toNat)

end BinaryFormat

end EntitySync
