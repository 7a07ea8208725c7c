import EntitySync.Float.Format
/-!
# Double-precision values

A double is kept as its 64-bit pattern, a natural number below `2 ^ 64`, so that the sign of
zero and every rounding are explicit. A product or a quotient is computed exactly on the
rationals the two patterns stand for and rounded once to the nearest double, a tie to the even
one, as IEEE-754 arithmetic does; an operand that is infinite or NaN gives what IEEE-754
prescribes, with the one quiet NaN `0x7FF8000000000000` for every NaN result.
-/

namespace EntitySync

namespace Binary64

abbrev format : BinaryFormat := BinaryFormat.binary64

def quietNaN : Nat := 0x7FF8000000000000

def negZero : Nat := 2 ^ (63 : Nat)

def ofNat (n : Nat) : Nat := format.roundBits false n 1

def ofInt (i : Int) : Nat := format.roundBits (i < 0) i.natAbs 1

/-- The double nearest to the decimal `c · 10 ^ k`. -/
def ofDecimal (c : Nat) (k : Int) : Nat :=
  if 0 ≤ k then format.roundBits false (c * 10 ^ k.toNat) 1
  else format.roundBits false c (10 ^ (-k).toNat)

def negate (x : Nat) : Nat := (x + 2 ^ (63 : Nat)) % 2 ^ (64 : Nat)

def isInfinite (x : Nat) : Bool :=
  match format.decode x with
  | .infinite _ => true
  | _ => false

def isZero (x : Nat) : Bool := x % 2 ^ (63 : Nat) = 0

def signed (neg : Bool) (n : Nat) : Int := if neg then -(n : Int) else n

/-- The sum of two doubles. An exact zero sum is positive unless both operands are negative. -/
def add (x y : Nat) : Nat :=
  match format.decode x, format.decode y with
  | .nan, _ => quietNaN
  | _, .nan => quietNaN
  | .infinite nx, .infinite ny => if nx == ny then format.infBits nx else quietNaN
  | .infinite nx, .finite _ _ _ => format.infBits nx
  | .finite _ _ _, .infinite ny => format.infBits ny
  | .finite nx mx ex, .finite ny my ey =>
    let e := min ex ey
    let s := signed nx (mx * 2 ^ (ex - e).toNat) + signed ny (my * 2 ^ (ey - e).toNat)
    if s = 0 then format.signOf (nx && ny)
    else format.roundFinite (s < 0) s.natAbs e

def mul (x y : Nat) : Nat :=
  match format.decode x, format.decode y with
  | .nan, _ => quietNaN
  | _, .nan => quietNaN
  | .finite nx mx ex, .finite ny my ey => format.roundFinite (nx != ny) (mx * my) (ex + ey)
  | .infinite nx, .finite ny my _ => if my = 0 then quietNaN else format.infBits (nx != ny)
  | .finite nx mx _, .infinite ny => if mx = 0 then quietNaN else format.infBits (nx != ny)
  | .infinite nx, .infinite ny => format.infBits (nx != ny)

def div (x y : Nat) : Nat :=
  match format.decode x, format.decode y with
  | .nan, _ => quietNaN
  | _, .nan => quietNaN
  | .finite nx mx ex, .finite ny my ey =>
    if my = 0 then (if mx = 0 then quietNaN else format.infBits (nx != ny))
    else if ey ≤ ex then format.roundBits (nx != ny) (mx * 2 ^ (ex - ey).toNat) my
    else format.roundBits (nx != ny) mx (my * 2 ^ (ey - ex).toNat)
  | .infinite nx, .finite ny _ _ => format.infBits (nx != ny)
  | .finite nx _ _, .infinite ny => format.signOf (nx != ny)
  | .infinite _, .infinite _ => quietNaN

def pow10 (k : Nat) : Nat := ofNat (10 ^ k)

end Binary64

end EntitySync
