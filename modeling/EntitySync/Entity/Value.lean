import EntitySync.Schema.Kind
import EntitySync.Text.Utf8
/-!
# Field values

A field value is what one leaf of an entity holds. A value fits a kind when its type is the
kind's type, an enumeration value lies below the variant count, and a string is within its
bound and holds no NUL byte; `check` says which rule fails first. `wireBytes` gives the bytes a
fitting value takes on the wire: integers little-endian, a float's codec code in the codec's
width, an enumeration in its width, a string and its terminator. Only floats change on the way:
`quantize` is the value a receiver reconstructs.
-/

namespace EntitySync

/-- The value of one leaf. -/
inductive FieldValue where
  | bool (b : Bool)
  | u8 (v : UInt8)
  | u16 (v : UInt16)
  | u32 (v : UInt32)
  | u64 (v : UInt64)
  | i8 (v : Int8)
  | i16 (v : Int16)
  | i32 (v : Int32)
  | i64 (v : Int64)
  | f32 (v : Binary32)
  | enum (v : UInt32)
  | str (s : String)
  deriving DecidableEq, Repr

/-- Why a value does not fit a kind. -/
inductive ValueReason where
  | typeMismatch (expected found : String)
  | enumOutOfRange (value variants : Nat)
  | stringTooLong (len maxLen : Nat)
  | stringContainsNul
  | indexOutOfRange (len : Nat)
  deriving DecidableEq, Repr

def ValueReason.message : ValueReason → String
  | .typeMismatch expected found => s!"expected {expected} but got {found}"
  | .enumOutOfRange value variants => s!"enum value {value} outside {variants} variants"
  | .stringTooLong len maxLen => s!"string of {len} bytes exceeds bound of {maxLen}"
  | .stringContainsNul => "string contains a NUL byte"
  | .indexOutOfRange len => s!"field index outside schema of {len} fields"

namespace FieldValue

/-- The zero value of a kind: false, 0, positive zero, the first variant, the empty string. -/
def zero : FieldKind → FieldValue
  | .bool => bool false
  | .u8 => u8 0
  | .u16 => u16 0
  | .u32 => u32 0
  | .u64 => u64 0
  | .i8 => i8 0
  | .i16 => i16 0
  | .i32 => i32 0
  | .i64 => i64 0
  | .float _ => f32 Binary32.zero
  | .enum _ => enum 0
  | .str _ => str ""

/-- The short name of a value's type. -/
def typeName : FieldValue → String
  | bool _ => "bool"
  | u8 _ => "u8"
  | u16 _ => "u16"
  | u32 _ => "u32"
  | u64 _ => "u64"
  | i8 _ => "i8"
  | i16 _ => "i16"
  | i32 _ => "i32"
  | i64 _ => "i64"
  | f32 _ => "f32"
  | enum _ => "enum"
  | str _ => "string"

/-- Whether the value fits the kind, and if not, the first rule it breaks. -/
def check (v : FieldValue) (k : FieldKind) : Except ValueReason Unit :=
  match k, v with
  | .bool, bool _ | .u8, u8 _ | .u16, u16 _ | .u32, u32 _ | .u64, u64 _
  | .i8, i8 _ | .i16, i16 _ | .i32, i32 _ | .i64, i64 _ | .float _, f32 _ => .ok ()
  | .enum variants, enum x =>
    if x.toNat < variants then .ok () else .error (.enumOutOfRange x.toNat variants)
  | .str maxLen, str s =>
    let bytes := encodeUtf8 s
    if maxLen < bytes.length then .error (.stringTooLong bytes.length maxLen)
    else if bytes.contains 0 then .error .stringContainsNul
    else .ok ()
  | k, v => .error (.typeMismatch k.expectedName v.typeName)

/-- The value a receiver reconstructs: a float goes through its codec, all else is kept. -/
def quantize (k : FieldKind) (v : FieldValue) : FieldValue :=
  match k, v with
  | .float c, f32 x => f32 (c.quantize x)
  | _, v => v

/-- The wire bytes of a value read as a leaf of kind `k`. -/
def bytesAs (k : FieldKind) : FieldValue → Bytes
  | f32 x => match k with
    | .float c => toLE c.wireSize (c.toBits (c.quantize x))
    | _ => []
  | enum x => match k with
    | .enum variants => toLE (enumWidth variants) x.toNat
    | _ => []
  | bool b => [if b then 1 else 0]
  | u8 x => toLE 1 x.toNat
  | u16 x => toLE 2 x.toNat
  | u32 x => toLE 4 x.toNat
  | u64 x => toLE 8 x.toNat
  | i8 x => toLE 1 (twosComplement 1 x.toInt)
  | i16 x => toLE 2 (twosComplement 2 x.toInt)
  | i32 x => toLE 4 (twosComplement 4 x.toInt)
  | i64 x => toLE 8 (twosComplement 8 x.toInt)
  | str s => encodeUtf8 s ++ [0]

/-- The wire bytes of a value that fits kind `k`, or why it does not fit. -/
def wireBytes (v : FieldValue) (k : FieldKind) : Except ValueReason Bytes := do
  v.check k
  return v.bytesAs k

end FieldValue

end EntitySync
