import EntitySync.Schema.Kind
/-!
# Schemas

A schema is the ordered list of an entity's leaves, each with a name and a kind; the order is
the order on the wire. Composite items expand into leaves: a vector into `.x`, `.y`, `.z`, a box
into its `.mins` and `.maxs` vectors, a color into `.r`, `.g`, `.b`, `.a` bytes, an array into
`[0]` to `[n-1]`.

A schema is valid when it has at most 1023 leaves and every leaf has a nonempty name used by no
earlier leaf, every enumeration at least one variant, and every string a positive bound. The
first rule broken, in that order and leaf by leaf, is the error.
-/

namespace EntitySync

def maxSchemaFields : Nat := 1023

/-- One leaf of a schema. -/
structure Field where
  name : String
  kind : FieldKind
  deriving DecidableEq, Repr

/-- An entity's leaves in wire order, with the schema's name. -/
structure Schema where
  name : String
  fields : List Field
  deriving DecidableEq, Repr

/-- Why a list of leaves is not a valid schema. -/
inductive SchemaError where
  | duplicateField (name : String)
  | emptyFieldName (index : Nat)
  | tooManyFields (count max : Nat)
  | invalidEnum (name : String)
  | invalidStringBound (name : String)
  deriving DecidableEq, Repr

/-- The one-line description of a schema error. -/
def SchemaError.message : SchemaError → String
  | .duplicateField name => s!"duplicate field name '{name}'"
  | .emptyFieldName index => s!"field {index} has an empty name"
  | .tooManyFields count max => s!"schema has {count} fields, maximum is {max}"
  | .invalidEnum name => s!"enum field '{name}' has no variants"
  | .invalidStringBound name => s!"string field '{name}' has a zero length bound"

namespace Schema

def len (s : Schema) : Nat := s.fields.length

/-- The position of the first leaf with the given name. -/
def indexOf (s : Schema) (name : String) : Option Nat := s.fields.findIdx? (·.name == name)

def maxPayloadLen (s : Schema) : Nat := (s.fields.map (·.kind.maxWireSize)).sum

/-- The rule a single leaf must keep on its own. -/
def checkField (f : Field) : Except SchemaError Unit :=
  match f.kind with
  | .enum 0 => .error (.invalidEnum f.name)
  | .str 0 => .error (.invalidStringBound f.name)
  | _ => .ok ()

/-- Checks the leaves from position `index` on, given the names of the leaves before them. -/
def checkFrom (seen : List String) (index : Nat) : List Field → Except SchemaError Unit
  | [] => .ok ()
  | f :: rest =>
    if f.name.isEmpty then .error (.emptyFieldName index)
    else if seen.contains f.name then .error (.duplicateField f.name)
    else match checkField f with
      | .error e => .error e
      | .ok () => checkFrom (f.name :: seen) (index + 1) rest

def validate (s : Schema) : Except SchemaError Unit :=
  if maxSchemaFields < s.fields.length then .error (.tooManyFields s.fields.length maxSchemaFields)
  else checkFrom [] 0 s.fields

/-- The schema with the given name and leaves, when they are valid. -/
def build (name : String) (fields : List Field) : Except SchemaError Schema :=
  let s : Schema := ⟨name, fields⟩
  match s.validate with
  | .ok () => .ok s
  | .error e => .error e

end Schema

/-- An item of a schema definition, before expansion into leaves. -/
inductive SchemaItem where
  | field (name : String) (kind : FieldKind)
  | vec3 (name : String) (codec : FloatCodec)
  | bbox (name : String) (codec : FloatCodec)
  | color (name : String)
  | array (name : String) (len : Nat) (kind : FieldKind)
  deriving DecidableEq, Repr

def vec3Fields (name : String) (codec : FloatCodec) : List Field :=
  ["x", "y", "z"].map fun axis => ⟨name ++ "." ++ axis, .float codec⟩

/-- The leaves an item expands into, in order. -/
def SchemaItem.leaves : SchemaItem → List Field
  | .field name kind => [⟨name, kind⟩]
  | .vec3 name codec => vec3Fields name codec
  | .bbox name codec => vec3Fields (name ++ ".mins") codec ++ vec3Fields (name ++ ".maxs") codec
  | .color name => ["r", "g", "b", "a"].map fun c => ⟨name ++ "." ++ c, .u8⟩
  | .array name len kind => (List.range len).map fun i => ⟨name ++ "[" ++ toString i ++ "]", kind⟩

/-- The number of leaves an item expands into. -/
def SchemaItem.leafCount : SchemaItem → Nat
  | .field _ _ => 1
  | .vec3 _ _ => 3
  | .bbox _ _ => 6
  | .color _ => 4
  | .array _ len _ => len

/-- The schema of a definition: its items expanded in order, then validated. Too many leaves are
refused before the items are expanded, as validation would refuse them first. -/
def Schema.ofItems (name : String) (items : List SchemaItem) : Except SchemaError Schema :=
  let count := (items.map SchemaItem.leafCount).sum
  if maxSchemaFields < count then .error (.tooManyFields count maxSchemaFields)
  else Schema.build name (items.flatMap SchemaItem.leaves)

end EntitySync
