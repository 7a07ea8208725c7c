import EntitySync.Request.Values
/-!
# Requests on schemas, kinds and values

What a schema is made of and its fingerprint, the sizes of a field kind, the float quantizers
applied to a list of inputs, and the check and quantization of one value against a kind.
-/

namespace EntitySync

namespace Request

/-- A schema's fields, sizes and fingerprint, and the indices of some names; what is not a
name has no index. -/
def schemaRequest (j : Json) : Reading Json := do
  let s ← schemaField j "schema"
  let lookups ← match opt j "index_of" with
    | some v => do
      let names ← asArr v
      pure [("index_of", Json.arr (names.map fun
        | .str n => Json.opt .nat (s.indexOf n)
        | _ => .null))]
    | none => pure []
  return .obj ([("name", .str s.name), ("len", .nat s.len), ("is_empty", .bool s.fields.isEmpty),
    ("max_payload_len", .nat s.maxPayloadLen), ("hash", .nat s.fingerprint.toNat),
    ("fields", .arr (s.fields.map fun f => .arr [.str f.name, kindJson f.kind]))] ++ lookups)

/-- The sizes and the zero value of a field kind. -/
def kindRequest (j : Json) : Reading Json := do
  let k ← kindOf (← field j "kind")
  return .obj [("wire_size", Json.opt .nat k.wireSize), ("max_wire_size", .nat k.maxWireSize),
    ("zero", valueJson (FieldValue.zero k))]

def enumWidthRequest (j : Json) : Reading Json := do
  return .obj [("width", .nat (enumWidth (← natBelow j "variants" (2 ^ (32 : Nat)))))]

/-- One float quantizer applied to one input. -/
def quantizer (fn : String) (codec : Option FloatCodec) (v : Json) : Reading Json := do
  match fn, codec with
  | "float_to_half", _ => return .nat (toHalf (← floatOf v))
  | "half_to_float", _ => return floatJson (ofHalf (← asIntIn v 0 65535).toNat)
  | "normalize_angle", _ => return floatJson (normalizeAngle (← floatOf v))
  | "angle_to_u16", _ => return .nat (angleToCode (← floatOf v))
  | "u16_to_angle", _ => return floatJson (codeToAngle (← asIntIn v 0 65535).toNat)
  | "quantize", some c => return floatJson (c.quantize (← floatOf v))
  | "to_bits", some c => return .nat (c.toBits (← floatOf v))
  | "from_bits", some c => return floatJson (c.fromBits (← asIntIn v 0 (2 ^ (32 : Nat) - 1)).toNat)
  | "wire_size", some c => return .nat c.wireSize
  | _, _ => refuse s!"bad quant fn {fn}"

/-- A float quantizer applied to each input. -/
def quantRequest (j : Json) : Reading Json := do
  let fn ← strField j "fn"
  let codec ← match opt j "codec" with
    | some c => some <$> codecOf c
    | none => pure none
  return .obj [("results", .arr (← (← arrField j "values").mapM (quantizer fn codec)))]

/-- A value checked and quantized against a kind. -/
def valueCheckRequest (j : Json) : Reading Json := do
  let k ← kindOf (← field j "kind")
  let v ← valueOf (← field j "value")
  let check := match v.check k with
    | .ok () => Json.null
    | .error r => .str r.message
  return .obj [("type_name", .str v.typeName), ("check", check),
    ("quantized", valueJson (FieldValue.quantize k v))]

end Request

end EntitySync
