import EntitySync.Float.Half
import EntitySync.Float.Angle
/-!
# Field kinds

Every leaf of a schema has a kind: a boolean, an integer of 8 to 64 bits, signed or not, a float
under one of three codecs, an enumeration with a number of variants, or a bounded string. The
kind fixes how many bytes the leaf takes on the wire: a fixed size for all but strings, which
take their bytes and a terminator.

A float codec says how a single-precision value crosses the wire: whole (four bytes), as half
precision (two bytes), or as a 16-bit angle code (two bytes). `quantize` is the value a receiver
reconstructs; `toBits` and `fromBits` are the code on the wire and its value.
-/

namespace EntitySync

/-- How a float leaf crosses the wire. -/
inductive FloatCodec where
  | full
  | half
  | angle
  deriving DecidableEq, Repr

namespace FloatCodec

def wireSize : FloatCodec → Nat
  | full => 4
  | half | angle => 2

/-- The code of a value on the wire. -/
def toBits : FloatCodec → Binary32 → Nat
  | full, x => x.bits.toNat
  | half, x => toHalf x
  | angle, x => angleToCode x

/-- The value of a code on the wire; only the low 16 bits of a half or angle code count. -/
def fromBits : FloatCodec → Nat → Binary32
  | full, n => Binary32.ofBits n
  | half, n => ofHalf (n % 2 ^ (16 : Nat))
  | angle, n => codeToAngle (n % 2 ^ (16 : Nat))

/-- The value a receiver reconstructs from `x`. -/
def quantize (c : FloatCodec) (x : Binary32) : Binary32 :=
  match c with
  | full => x
  | half | angle => c.fromBits (c.toBits x)

end FloatCodec

/-- The kind of a schema leaf. -/
inductive FieldKind where
  | bool
  | u8
  | u16
  | u32
  | u64
  | i8
  | i16
  | i32
  | i64
  | float (codec : FloatCodec)
  | enum (variants : Nat)
  | str (maxLen : Nat)
  deriving DecidableEq, Repr

/-- The bytes an enumeration of `variants` values takes: one up to 256, two up to 65536, else
four. -/
def enumWidth (variants : Nat) : Nat :=
  if variants ≤ 256 then 1 else if variants ≤ 65536 then 2 else 4

namespace FieldKind

/-- The fixed size of a leaf of this kind; strings have none. -/
def wireSize : FieldKind → Option Nat
  | bool | u8 | i8 => some 1
  | u16 | i16 => some 2
  | u32 | i32 => some 4
  | u64 | i64 => some 8
  | float c => some c.wireSize
  | enum v => some (enumWidth v)
  | str _ => none

/-- The most bytes a leaf of this kind takes: a string's bound and its terminator. -/
def maxWireSize : FieldKind → Nat
  | str maxLen => maxLen + 1
  | k => k.wireSize.getD 0

/-- The kind's name where a value of another type was found. -/
def expectedName : FieldKind → String
  | bool => "bool"
  | u8 => "u8"
  | u16 => "u16"
  | u32 => "u32"
  | u64 => "u64"
  | i8 => "i8"
  | i16 => "i16"
  | i32 => "i32"
  | i64 => "i64"
  | float .full => "f32"
  | float .half => "f32 (half)"
  | float .angle => "f32 (angle)"
  | enum _ => "enum"
  | str _ => "string"

end FieldKind

end EntitySync
