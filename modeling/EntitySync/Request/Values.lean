import EntitySync.Request.Diagnostic
import EntitySync.Codec.Message
import EntitySync.Schema.Fingerprint
import EntitySync.Float.Binary64
/-!
# Domain values in requests and answers

The JSON forms of the library's values. A field kind is its name (`"u8"`, `"f32"`, `"half"`,
`"angle"`, …) or a one-field object (`{"enum": n}`, `{"str": n}`, `{"float": codec}`); a field
value is a one-field object naming its variant; a float is written as its bit pattern,
`"0x"` and eight hex digits, and read from a JSON number (the double it is read as, rounded to
single precision), from `"nan"`, `"inf"`, `"-inf"`, `"-0"`, or from `"0x"` and its bit pattern
as a hex number of any length below `2 ^ 32`. A state is the list of its values, a snapshot its
tick and its entities by ascending slot. Limits are a preset with fields overriding it.
-/

namespace EntitySync

namespace Request

def codecOf (j : Json) : Reading FloatCodec := do
  match ← asStr j with
  | "full" => pure .full
  | "half" => pure .half
  | "angle16" => pure .angle
  | other => refuse s!"unknown codec {other}"

def kindOf (j : Json) : Reading FieldKind := do
  match j with
  | .str "bool" => pure .bool
  | .str "u8" => pure .u8
  | .str "u16" => pure .u16
  | .str "u32" => pure .u32
  | .str "u64" => pure .u64
  | .str "i8" => pure .i8
  | .str "i16" => pure .i16
  | .str "i32" => pure .i32
  | .str "i64" => pure .i64
  | .str "f32" => pure (.float .full)
  | .str "half" => pure (.float .half)
  | .str "angle" => pure (.float .angle)
  | .obj _ =>
    if let some v := opt j "enum" then
      let n ← asNat v
      if 2 ^ (32 : Nat) ≤ n then refuse "enum variants out of range"
      return .enum n
    if let some v := opt j "str" then
      let n ← asNat v
      if 2 ^ (16 : Nat) ≤ n then refuse "str max_len out of range"
      return .str n
    if let some v := opt j "float" then return .float (← codecOf v)
    refuse "bad kind"
  | _ => refuse "bad kind"

/-- The JSON form of a field kind. -/
def kindJson : FieldKind → Json
  | .bool => .str "bool"
  | .u8 => .str "u8"
  | .u16 => .str "u16"
  | .u32 => .str "u32"
  | .u64 => .str "u64"
  | .i8 => .str "i8"
  | .i16 => .str "i16"
  | .i32 => .str "i32"
  | .i64 => .str "i64"
  | .float .full => .str "f32"
  | .float .half => .str "half"
  | .float .angle => .str "angle"
  | .enum n => .obj [("enum", .nat n)]
  | .str n => .obj [("str", .nat n)]

def itemOf (j : Json) : Reading SchemaItem := do
  if let some v := opt j "field" then return .field (← asStr v) (← kindOf (← field j "kind"))
  if let some v := opt j "vec3" then return .vec3 (← asStr v) (← codecOf (← field j "codec"))
  if let some v := opt j "bbox" then return .bbox (← asStr v) (← codecOf (← field j "codec"))
  if let some v := opt j "color" then return .color (← asStr v)
  if let some v := opt j "array" then
    let len ← natField j "len"
    return .array (← asStr v) len (← kindOf (← field j "kind"))
  refuse "bad schema item"

/-- The schema a definition builds; a validation error is the answer. A name that is not a
string counts as absent. -/
def schemaOf (j : Json) : Reading Schema := do
  let name := (strFieldOpt j "name").getD "entity"
  let items ← (← arrField j "items").mapM itemOf
  match Schema.ofItems name items with
  | .ok s => pure s
  | .error e => answerNow (schemaJson e)

def schemaField (j : Json) (k : String) : Reading Schema := do schemaOf (← field j k)

def hexNumber (cs : List Char) : Option Nat :=
  cs.foldlM (fun acc c => (hexValue c).map (16 * acc + ·)) 0

/-- A 32-bit pattern spelled by hex digits, a plus sign allowed before them. -/
def bitsOf (cs : List Char) : Option Nat :=
  let digits := match cs with
    | '+' :: rest => rest
    | _ => cs
  if digits.isEmpty then none
  else match hexNumber digits with
    | some n => if n < 2 ^ (32 : Nat) then some n else none
    | none => none

def floatOf (j : Json) : Reading Binary32 :=
  match j with
  | .num (.int i) => pure (Binary32.ofBinary64 (Binary64.ofInt i))
  | .num (.double bits) => pure (Binary32.ofBinary64 bits)
  | .str "nan" => pure (Binary32.ofBits 0x7fc00000)
  | .str "inf" => pure (Binary32.ofBits 0x7f800000)
  | .str "-inf" => pure (Binary32.ofBits 0xff800000)
  | .str "-0" => pure (Binary32.ofBits 0x80000000)
  | .str s =>
    match s.toList with
    | '0' :: 'x' :: digits =>
      match bitsOf digits with
      | some n => pure (Binary32.ofBits n)
      | none => refuse "bad float bits"
    | _ => refuse "bad float"
  | _ => refuse "bad float"

/-- A bit pattern as `"0x"` and eight lower-case hex digits. -/
def bits32Text (n : Nat) : String :=
  "0x" ++ String.ofList ((List.range 8).reverse.map fun i => hexDigit (n / 16 ^ i % 16))

def floatJson (x : Binary32) : Json := .str (bits32Text x.bits.toNat)

def valueOf (j : Json) : Reading FieldValue := do
  match j with
  | .obj [(key, v)] =>
    match key with
    | "bool" => return .bool (← asBool v)
    | "u8" => return .u8 (UInt8.ofNat (← asIntIn v 0 255).toNat)
    | "u16" => return .u16 (UInt16.ofNat (← asIntIn v 0 65535).toNat)
    | "u32" => return .u32 (UInt32.ofNat (← asIntIn v 0 (2 ^ (32 : Nat) - 1)).toNat)
    | "u64" => return .u64 (UInt64.ofNat (← asIntIn v 0 (2 ^ (64 : Nat) - 1)).toNat)
    | "i8" => return .i8 (Int8.ofInt (← asIntIn v (-128) 127))
    | "i16" => return .i16 (Int16.ofInt (← asIntIn v (-32768) 32767))
    | "i32" => return .i32 (Int32.ofInt (← asIntIn v (-(2 ^ (31 : Nat))) (2 ^ (31 : Nat) - 1)))
    | "i64" => return .i64 (Int64.ofInt (← asIntIn v (-(2 ^ (63 : Nat))) (2 ^ (63 : Nat) - 1)))
    | "f32" => return .f32 (← floatOf v)
    | "enum" => return .enum (UInt32.ofNat (← asIntIn v 0 (2 ^ (32 : Nat) - 1)).toNat)
    | "str" => return .str (← asStr v)
    | _ => refuse "bad value"
  | _ => refuse "bad value"

/-- The JSON form of a field value. -/
def valueJson : FieldValue → Json
  | .bool b => .obj [("bool", .bool b)]
  | .u8 v => .obj [("u8", .nat v.toNat)]
  | .u16 v => .obj [("u16", .nat v.toNat)]
  | .u32 v => .obj [("u32", .nat v.toNat)]
  | .u64 v => .obj [("u64", .nat v.toNat)]
  | .i8 v => .obj [("i8", .int v.toInt)]
  | .i16 v => .obj [("i16", .int v.toInt)]
  | .i32 v => .obj [("i32", .int v.toInt)]
  | .i64 v => .obj [("i64", .int v.toInt)]
  | .f32 x => .obj [("f32", floatJson x)]
  | .enum v => .obj [("enum", .nat v.toNat)]
  | .str s => .obj [("str", .str s)]

/-- The JSON form of a state: its values in schema order. -/
def stateJson (s : EntityState) : Json := .arr (s.values.map valueJson)

/-- A state built against `schema`, or against the schema it names itself; a failure to build
it is the answer. -/
def stateOf (schema : Schema) (j : Json) : Reading EntityState := do
  match j with
  | .str "zero" => pure (EntityState.zeroed schema)
  | .arr vs => orCodec (EntityState.ofValues schema (← vs.mapM valueOf))
  | .obj _ =>
    let schema ← match opt j "schema" with
      | some s => schemaOf s
      | none => pure schema
    let start ← match opt j "values" with
      | some vs => orCodec (EntityState.ofValues schema (← (← asArr vs).mapM valueOf))
      | none => pure (EntityState.zeroed schema)
    (← arrFieldOr j "set").foldlM (fun st pair => do
      match ← asArr pair with
      | [.str name, v] => orCodec (st.setNamed schema name (← valueOf v))
      | [i, v] => orCodec (st.set schema (← asNat i) (← valueOf v))
      | _ => refuse "bad set pair") start
  | _ => refuse "bad state"

def stateFieldOpt (schema : Schema) (j : Json) (k : String) : Reading (Option EntityState) := do
  match opt j k with
  | some v => return some (← stateOf schema v)
  | none => return none

/-- A slot number, which is never zero. -/
def slotOf (j : Json) : Reading Slot := do
  match Slot.ofNat? (← asNat j) with
  | some s => pure s
  | none => refuse "bad slot"

/-- A snapshot: its tick and its entities, inserted in order. -/
def snapshotOf (schema : Schema) (j : Json) : Reading Snapshot := do
  let tick ← natBelow j "tick" (2 ^ (32 : Nat))
  (← arrFieldOr j "entities").foldlM (fun snap e => do
    match ← asArr e with
    | [slot, st] =>
      let slot ← slotOf slot
      let st ← stateOf schema st
      pure (snap.insert slot st).2
    | _ => refuse "bad entity") (Snapshot.empty (UInt32.ofNat tick))

def snapshotFieldOpt (schema : Schema) (j : Json) (k : String) : Reading (Option Snapshot) := do
  match opt j k with
  | some v => return some (← snapshotOf schema v)
  | none => return none

def snapshotJson (s : Snapshot) : Json :=
  .obj [("tick", .nat s.tick.toNat),
    ("entities", .arr (s.entities.map fun (k, v) => .arr [.nat k.toNat, stateJson v]))]

/-- The preset a limits object names, if it names one; a preset that is not a string counts as
absent. -/
def presetOf {α : Type} (l : Json) (standard testing unlimited : α) : Reading (Option α) :=
  match strFieldOpt l "preset" with
  | none => pure none
  | some "default" => pure (some standard)
  | some "testing" => pure (some testing)
  | some "unlimited" => pure (some unlimited)
  | some other => refuse s!"unknown preset {other}"

/-- Frame limits: `base` overridden field by field. -/
def frameLimitsOver (base : FrameLimits) (l : Json) : Reading FrameLimits := do
  return ⟨← natFieldOr l "max_message_bytes" base.maxMessageBytes,
    ← natFieldOr l "max_sections" base.maxSections, ← natFieldOr l "max_section_len" base.maxSectionLen,
    ← natFieldOr l "max_config_strings" base.maxConfigStrings,
    ← natFieldOr l "max_config_string_len" base.maxConfigStringLen⟩

/-- The sizes of frame limits that an encoder allocates, refused above the allocation bound. -/
def guardFrameLimits (lim : FrameLimits) : Reading Unit := do
  let _ ← sizeGuard "max_message_bytes" lim.maxMessageBytes
  let _ ← sizeGuard "max_section_len" lim.maxSectionLen

/-- A frame-limits field; the standard limits when absent. -/
def frameLimitsField (j : Json) (k : String) (guarded : Bool) : Reading FrameLimits := do
  match opt j k with
  | none => pure FrameLimits.standard
  | some l =>
    let base ← presetOf l FrameLimits.standard FrameLimits.testing FrameLimits.unlimited
    let lim ← frameLimitsOver (base.getD FrameLimits.standard) l
    if guarded then guardFrameLimits lim
    pure lim

def codecLimitsOver (base : CodecLimits) (l : Json) : Reading CodecLimits := do
  let hist ← sizeGuard "baseline_history" (← natFieldOr l "baseline_history" base.baselineHistory)
  return ⟨← natFieldOr l "max_slots" base.maxSlots, ← natFieldOr l "max_entries" base.maxEntries, hist⟩

/-- A codec-limits field; the standard limits when absent. -/
def codecLimitsField (j : Json) (k : String) : Reading CodecLimits := do
  match opt j k with
  | none => pure CodecLimits.standard
  | some l =>
    let base ← presetOf l CodecLimits.standard CodecLimits.testing CodecLimits.unlimited
    codecLimitsOver (base.getD CodecLimits.standard) l

def headerOf (h : Json) : Reading Header := do
  return { version := UInt16.ofNat (← natBelowOr h "version" (2 ^ (16 : Nat)) 1)
           flags := ⟨UInt16.ofNat (← natBelow h "flags" (2 ^ (16 : Nat)))⟩
           schemaHash := UInt64.ofNat (← natBelowOr h "schema_hash" (2 ^ (64 : Nat)) 0)
           tick := UInt32.ofNat (← natBelowOr h "tick" (2 ^ (32 : Nat)) 0)
           baselineTick := UInt32.ofNat (← natBelowOr h "baseline_tick" (2 ^ (32 : Nat)) 0)
           payloadLen := UInt32.ofNat (← natBelowOr h "payload_len" (2 ^ (32 : Nat)) 0) }

/-- The JSON form of a frame header. -/
def headerJson (h : Header) : Json :=
  .obj [("version", .nat h.version.toNat), ("flags", .nat h.flags.raw.toNat),
    ("schema_hash", .nat h.schemaHash.toNat), ("tick", .nat h.tick.toNat),
    ("baseline_tick", .nat h.baselineTick.toNat), ("payload_len", .nat h.payloadLen.toNat)]

def sectionJson (s : Section) : Json := .obj [("tag", .nat s.tag.code), ("body", hexJson s.body)]

def tagField (j : Json) : Reading SectionTag := do
  match SectionTag.ofCode? (← natField j "tag") with
  | some t => pure t
  | none => refuse "bad section tag"

def entryJson (e : ConfigEntry) : Json := .arr [.nat e.1, .str e.2]

def entryOf (j : Json) : Reading ConfigEntry := do
  match ← asArr j with
  | [i, t] => return (← asNat i, ← asStr t)
  | _ => refuse "bad config entry"

/-- The output buffer of an encoding request: `out_max` bytes, holding `prefix` first. -/
def outBuffer (j : Json) : Reading Buffer := do
  let cap ← sizeFieldOr j "out_max" 65536
  match Buffer.ofBytes (← hexFieldOr j "prefix") cap with
  | .ok b => pure b
  | .error _ => refuse "prefix exceeds out_max"

end Request

end EntitySync
