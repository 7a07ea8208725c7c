import EntitySync.Codec.Error
import EntitySync.Schema.Basic
/-!
# Entity states

An entity state holds one value per schema leaf, in schema order. It is built from values that
must number as many as the leaves and each fit its leaf, or as the zero state; a leaf is then
changed by position or by name, and only to a value that fits it.
-/

namespace EntitySync

/-- The values of an entity's leaves, in schema order. -/
structure EntityState where
  values : List FieldValue
  deriving DecidableEq, Repr

namespace EntityState

def zeroed (schema : Schema) : EntityState := ⟨schema.fields.map (FieldValue.zero ·.kind)⟩

/-- Checks each value against its leaf, from position `index` on. -/
def checkValues : Nat → List Field → List FieldValue → Except CodecError Unit
  | index, f :: fs, v :: vs => do
    (v.check f.kind).mapError (.invalidValue index)
    checkValues (index + 1) fs vs
  | _, _, _ => .ok ()

/-- The state with the given values, when they number as many as the leaves and each fits. -/
def ofValues (schema : Schema) (values : List FieldValue) : Except CodecError EntityState := do
  if values.length != schema.len then throw (.fieldCountMismatch schema.len values.length)
  checkValues 0 schema.fields values
  return ⟨values⟩

def get? (s : EntityState) (index : Nat) : Option FieldValue := s.values[index]?

def getNamed? (s : EntityState) (schema : Schema) (name : String) : Option FieldValue :=
  (schema.indexOf name).bind s.get?

/-- Replaces the value of leaf `index` by one that fits it. -/
def set (s : EntityState) (schema : Schema) (index : Nat) (v : FieldValue) :
    Except CodecError EntityState := do
  match schema.fields[index]? with
  | none => throw (.invalidValue index (.indexOutOfRange schema.len))
  | some f =>
    (v.check f.kind).mapError (.invalidValue index)
    if index < s.values.length then return ⟨s.values.set index v⟩
    else throw (.fieldCountMismatch schema.len s.values.length)

/-- Replaces the value of the leaf called `name`. -/
def setNamed (s : EntityState) (schema : Schema) (name : String) (v : FieldValue) :
    Except CodecError EntityState :=
  match schema.indexOf name with
  | some index => s.set schema index v
  | none => .error (.unknownField name)

/-- The state a receiver reconstructs: every float through its leaf's codec. Values past the
schema's leaves are dropped. -/
def quantized (s : EntityState) (schema : Schema) : EntityState :=
  ⟨List.zipWith (fun f v => v.quantize f.kind) schema.fields s.values⟩

end EntityState

end EntitySync
