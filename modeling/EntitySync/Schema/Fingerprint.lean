import EntitySync.Schema.Basic
import EntitySync.Hash.Blake3
import EntitySync.Text.Utf8
/-!
# Schema fingerprints

Two ends agree on a schema by its fingerprint: the first eight bytes, little-endian, of the
BLAKE3 hash of the schema's layout. The layout lists the leaf count, then each leaf's name
(its byte length and bytes) and kind (a tag byte and the kind's parameter). Counts and lengths
are 64-bit little-endian. The schema's own name is not part of it, so renaming a schema keeps
its fingerprint.
-/

namespace EntitySync

/-- The bytes that describe a leaf kind. -/
def FieldKind.layout : FieldKind → Bytes
  | .bool => [0]
  | .u8 => [1]
  | .u16 => [2]
  | .u32 => [3]
  | .u64 => [4]
  | .i8 => [5]
  | .i16 => [6]
  | .i32 => [7]
  | .i64 => [8]
  | .float .full => [9, 0]
  | .float .half => [9, 1]
  | .float .angle => [9, 2]
  | .enum v => 10 :: toLE 4 v
  | .str n => 11 :: toLE 2 n

def Field.layout (f : Field) : Bytes :=
  let name := encodeUtf8 f.name
  toLE 8 name.length ++ name ++ f.kind.layout

def Schema.layout (s : Schema) : Bytes :=
  toLE 8 s.fields.length ++ s.fields.flatMap Field.layout

def Schema.fingerprint (s : Schema) : UInt64 :=
  let w := Blake3.hashWords s.layout
  UInt64.ofNat ((Blake3.word w 0).toNat + 2 ^ (32 : Nat) * (Blake3.word w 1).toNat)

end EntitySync
