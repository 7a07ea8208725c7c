import EntitySync.Float.Binary32
/-!
# Angles

The angle codec stores an angle in degrees as one of 65536 codes. An angle is first brought into
`[0, 360)`: the remainder of division by 360 takes the sign of the angle, a negative remainder
gets 360 added (rounded to single precision), a sum that rounds up to 360 becomes 0, and
infinities and NaN become 0. The code is `angle · 65535 / 360` computed in double precision and
rounded half away from zero; a code goes back as `code · 360 / 65535` in double precision,
narrowed to single, with 360 again becoming 0.
-/

namespace EntitySync

def degrees360 : Nat := 0x43B40000

/-- A nonnegative finite value `mant · 2^exp` as a numerator and a denominator. -/
def ratioOf (mant : Nat) (exp : Int) : Nat × Nat :=
  if 0 ≤ exp then (mant * 2 ^ exp.toNat, 1) else (mant, 2 ^ (-exp).toNat)

def normalizeAngle (x : Binary32) : Binary32 :=
  match x.value with
  | .finite neg mant exp =>
    let (num, den) := ratioOf mant exp
    let r := num % (360 * den)
    if neg ∧ r ≠ 0 then
      let w := BinaryFormat.binary32.roundBits false (360 * den - r) den
      if w = degrees360 then Binary32.zero else Binary32.ofBits w
    else Binary32.ofBits (BinaryFormat.binary32.roundBits neg r den)
  | _ => Binary32.zero

/-- A double-precision pattern read back as a nonnegative ratio; anything else reads as zero. -/
def ratioOf64 (bits64 : Nat) : Nat × Nat :=
  match BinaryFormat.binary64.decode bits64 with
  | .finite _ mant exp => ratioOf mant exp
  | _ => (0, 1)

def angleToCode (x : Binary32) : Nat :=
  match (normalizeAngle x).value with
  | .finite _ mant exp =>
    let (num, den) := ratioOf mant exp
    let (pn, pd) := ratioOf64 (BinaryFormat.binary64.roundBits false (num * 65535) den)
    let (qn, qd) := ratioOf64 (BinaryFormat.binary64.roundBits false pn (pd * 360))
    min ((2 * qn + qd) / (2 * qd)) 65535
  | _ => 0

def codeToAngle (code : Nat) : Binary32 :=
  let d := Binary32.ofBinary64 (BinaryFormat.binary64.roundBits false (code * 360) 65535)
  if d.bits.toNat = degrees360 then Binary32.zero else d

end EntitySync
