import EntitySync.Document.Reader
import EntitySync.Schema.Basic
/-!
# Schema documents

A schema document is the object `{"name": …, "fields": [field, …]}`, a field the object
`{"name": …, "kind": kind}`; either may instead be the array of its values in that order. A kind
is the name of a kind without parameters (`"bool"`, `"u8"`, `"u16"`, `"u32"`, `"u64"`, `"i8"`,
`"i16"`, `"i32"`, `"i64"`) or an object with one key, the kind's name: `{"float": codec}` with
the codec `"full"`, `"half"` or `"angle16"`, `{"enum": {"variants": n}}` with `n` a 32-bit
count, `{"str": {"max_len": n}}` with `n` a 16-bit bound, or a parameterless kind with `null`.

Reading only checks the document's shape; whether the fields make a valid schema is checked
apart.
-/

namespace EntitySync

namespace SchemaDocument

open DocRead

def codecNames : List String := ["full", "half", "angle16"]

def kindNames : List String :=
  ["bool", "u8", "u16", "u32", "u64", "i8", "i16", "i32", "i64", "float", "enum", "str"]

/-- The codec at a position of `codecNames`. -/
def codecAt (i : Nat) : FloatCodec :=
  match i with
  | 0 => .full
  | 1 => .half
  | _ => .angle

/-- The parameterless kind at a position of `kindNames`. -/
def plainKindAt (i : Nat) : FieldKind :=
  match i with
  | 0 => .bool
  | 1 => .u8
  | 2 => .u16
  | 3 => .u32
  | 4 => .u64
  | 5 => .i8
  | 6 => .i16
  | 7 => .i32
  | _ => .i64

def codec : DocRead FloatCodec :=
  enumValue codecNames (fun i => pure (codecAt i)) (fun i => do unitValue; pure (codecAt i))

/-- A structure with one number field, the content of a kind with a parameter. -/
def countStruct (expected field ty : String) (bound : Nat) : DocRead Nat :=
  structValue expected
    (do
      if !(← nextElement true) then tooShort 0 (expected ++ " with 1 element")
      natValue ty bound)
    (do
      let entries ← mapEntries [field] (fun _ => natValue ty bound) ((← get).rest.length + 1) true []
      required [field] entries 0)

def kind : DocRead FieldKind :=
  enumValue kindNames
    (fun i =>
      if i < 9 then pure (plainKindAt i)
      else if i = 9 then custom "invalid type: unit variant, expected newtype variant"
      else custom "invalid type: unit variant, expected struct variant")
    (fun i =>
      if i < 9 then do unitValue; pure (plainKindAt i)
      else if i = 9 then do pure (.float (← codec))
      else if i = 10 then do
        pure (.enum (← countStruct "struct variant FieldKind::Enum" "variants" "u32" (2 ^ (32 : Nat))))
      else do pure (.str (← countStruct "struct variant FieldKind::Str" "max_len" "u16" (2 ^ (16 : Nat)))))

/-- What an object key of a field or schema reads: a name, a kind, or a list of fields. -/
inductive Part where
  | name (s : String)
  | kind (k : FieldKind)
  | fields (fs : List Field)

def Part.name? : Part → Option String
  | .name s => some s
  | _ => none

def Part.kind? : Part → Option FieldKind
  | .kind k => some k
  | _ => none

def Part.fields? : Part → Option (List Field)
  | .fields fs => some fs
  | _ => none

/-- A part of the expected sort: the reader of each key gives that sort. -/
def expectPart {α : Type} (get? : Part → Option α) (p : Part) : DocRead α :=
  match get? p with
  | some v => pure v
  | none => custom "mismatched part"

def fieldKeys : List String := ["name", "kind"]

def field : DocRead Field :=
  structValue "struct FieldDef"
    (do
      if !(← nextElement true) then tooShort 0 "struct FieldDef with 2 elements"
      let name ← stringValue
      if !(← nextElement false) then tooShort 1 "struct FieldDef with 2 elements"
      let k ← kind
      pure ⟨name, k⟩)
    (do
      let read := fun (i : Nat) => if i = 0 then Part.name <$> stringValue else Part.kind <$> kind
      let entries ← mapEntries fieldKeys read ((← get).rest.length + 1) true []
      let name ← expectPart Part.name? (← required fieldKeys entries 0)
      let k ← expectPart Part.kind? (← required fieldKeys entries 1)
      pure ⟨name, k⟩)

def schemaKeys : List String := ["name", "fields"]

def fieldList : DocRead (List Field) := seqValue "a sequence" field

def schema : DocRead Schema :=
  structValue "struct Schema"
    (do
      if !(← nextElement true) then tooShort 0 "struct Schema with 2 elements"
      let name ← stringValue
      if !(← nextElement false) then tooShort 1 "struct Schema with 2 elements"
      let fields ← fieldList
      pure ⟨name, fields⟩)
    (do
      let read := fun (i : Nat) => if i = 0 then Part.name <$> stringValue else Part.fields <$> fieldList
      let entries ← mapEntries schemaKeys read ((← get).rest.length + 1) true []
      let name ← expectPart Part.name? (← required schemaKeys entries 0)
      let fields ← expectPart Part.fields? (← required schemaKeys entries 1)
      pure ⟨name, fields⟩)

end SchemaDocument

/-- Reads a schema document, or says where and why it is malformed. -/
def Schema.ofDocument (text : String) : Except String Schema :=
  readDocument SchemaDocument.schema text

end EntitySync
