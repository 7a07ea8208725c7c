import EntitySync.Entity.State
import EntitySync.FieldBlock.Writer
import EntitySync.FieldBlock.Reader
/-!
# Entity field blocks

An entity's state travels as one field block with a flag per schema leaf: the flag is set when
the leaf's wire bytes differ from those of the baseline state (the zero state when there is
none), and then the bytes follow in the payload. An entity entry is an exists byte (0 for a
removed entity, 1 for a present one) and, for a present one, its field block.

Decoding starts from the baseline (or the zero state) and replaces the flagged leaves. A read
that fails, a boolean byte above 1 or an enumeration value outside its variants makes the block
fail, and so does a set flag left unread.
-/

namespace EntitySync

def checkLen (schema : Schema) (s : EntityState) : Except CodecError Unit :=
  if s.values.length = schema.len then .ok ()
  else .error (.fieldCountMismatch schema.len s.values.length)

/-- Adds the leaves from position `index` on to the writer, each compared with its base value;
the count of changed leaves rides along. -/
def composeFrom : Nat → List Field → List FieldValue → List FieldValue → FieldBlock.Writer → Nat →
    Except CodecError (FieldBlock.Writer × Nat)
  | index, f :: fs, b :: bs, v :: vs, w, changed => do
    let cur ← (v.wireBytes f.kind).mapError (.invalidValue index)
    let base ← (b.wireBytes f.kind).mapError (.invalidValue index)
    if cur == base then composeFrom (index + 1) fs bs vs (w.addBit false) changed
    else composeFrom (index + 1) fs bs vs ((w.addBit true).addBytes cur) (changed + 1)
  | _, _, _, _, w, changed => .ok (w, changed)

/-- The state the leaves of an entity are compared with: the baseline, or the zero state when
there is none. -/
def baseState (schema : Schema) : Option EntityState → Except CodecError EntityState
  | some b => do checkLen schema b; pure b
  | none => pure (EntityState.zeroed schema)

/-- The field block of `current` against `baseline`, still unwritten, and the number of leaves
that changed. -/
def composeFields (schema : Schema) (baseline : Option EntityState) (current : EntityState) :
    Except CodecError (FieldBlock.Writer × Nat) := do
  checkLen schema current
  let base ← baseState schema baseline
  let w := (FieldBlock.Writer.new schema.maxPayloadLen).withMaxFields schema.len
  let (w, changed) ← composeFrom 0 schema.fields base.values current.values w 0
  if let some e := w.error then throw (.stream e)
  return (w, changed)

/-- Appends the field block of `current` against `baseline` to the output; returns the number
of leaves that changed. -/
def encodeFields (schema : Schema) (baseline : Option EntityState) (current : EntityState) :
    WriteM CodecError Nat := do
  let (w, changed) ← liftExcept (composeFields schema baseline current)
  let _ ← w.finishInto.adaptExcept .stream
  return changed

/-- Reads one leaf of kind `k` from the block. -/
def readValue (k : FieldKind) (r : FieldBlock.Reader) : FieldValue × FieldBlock.Reader :=
  match k with
  | .bool =>
    let (bs, r) := r.getBytes 1
    let byte := ofLE bs
    let r := if 1 < byte then r.setError (.rangeViolation byte 2) else r
    (.bool (byte == 1), r)
  | .u8 => let (bs, r) := r.getBytes 1; (.u8 (UInt8.ofNat (ofLE bs)), r)
  | .u16 => let (bs, r) := r.getBytes 2; (.u16 (UInt16.ofNat (ofLE bs)), r)
  | .u32 => let (bs, r) := r.getBytes 4; (.u32 (UInt32.ofNat (ofLE bs)), r)
  | .u64 => let (bs, r) := r.getBytes 8; (.u64 (UInt64.ofNat (ofLE bs)), r)
  | .i8 => let (bs, r) := r.getBytes 1; (.i8 (Int8.ofInt (signedOf 1 (ofLE bs))), r)
  | .i16 => let (bs, r) := r.getBytes 2; (.i16 (Int16.ofInt (signedOf 2 (ofLE bs))), r)
  | .i32 => let (bs, r) := r.getBytes 4; (.i32 (Int32.ofInt (signedOf 4 (ofLE bs))), r)
  | .i64 => let (bs, r) := r.getBytes 8; (.i64 (Int64.ofInt (signedOf 8 (ofLE bs))), r)
  | .float c => let (bs, r) := r.getBytes c.wireSize; (.f32 (c.fromBits (ofLE bs)), r)
  | .enum variants =>
    let (bs, r) := r.getBytes (enumWidth variants)
    let v := ofLE bs
    if variants ≤ v then (.enum 0, r.setError (.rangeViolation v variants))
    else (.enum (UInt32.ofNat v), r)
  | .str maxLen => let (s, r) := r.getString maxLen; (.str s, r)

/-- Replaces the flagged leaves of `values` by the values read from the block. -/
def readFlagged : List Field → List FieldValue → FieldBlock.Reader → List FieldValue × FieldBlock.Reader
  | f :: fs, v :: vs, r =>
    let (flag, r) := r.getBit
    let (v, r) := if flag then readValue f.kind r else (v, r)
    let (vs, r) := readFlagged fs vs r
    (v :: vs, r)
  | _, vs, r => (vs, r)

/-- Reads a field block at `c` on top of `baseline` (the zero state when there is none). -/
def decodeFields (schema : Schema) (baseline : Option EntityState) (c : Cursor) :
    Except CodecError (EntityState × Cursor) := do
  let start ← baseState schema baseline
  let r := FieldBlock.Reader.begin c schema.len
  let (values, r) := readFlagged schema.fields start.values r
  r.finish.mapError .stream
  return (⟨values⟩, r.cursor)

/-- Appends an entity entry to the output: the exists byte and, for a present entity, its field
block, after checking that both fit. Returns the number of leaves that changed. -/
def encodeEntity (schema : Schema) (baseline : Option EntityState) (current : Option EntityState) :
    WriteM CodecError Nat := do
  match current with
  | none =>
    (WriteM.write [0]).adaptExcept .stream
    return 0
  | some cur =>
    let (w, changed) ← liftExcept (composeFields schema baseline cur)
    (WriteM.ensureFree (1 + w.encodedLen)).adaptExcept .stream
    (WriteM.write [1]).adaptExcept .stream
    let _ ← w.finishInto.adaptExcept .stream
    return changed

/-- Reads an entity entry at `c`: `none` for a removed entity. -/
def decodeEntity (schema : Schema) (baseline : Option EntityState) (c : Cursor) :
    Except CodecError (Option EntityState × Cursor) := do
  let (tag, c) ← (c.readUInt 1).mapError .stream
  match tag with
  | 0 => return (none, c)
  | 1 =>
    let (s, c) ← decodeFields schema baseline c
    return (some s, c)
  | other => throw (.stream (.rangeViolation other 2))

end EntitySync
