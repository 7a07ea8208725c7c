import EntitySync.Request.Values
import EntitySync.FieldBlock.Writer
import EntitySync.FieldBlock.Reader
/-!
# Requests on buffers, cursors and field blocks

A buffer, a cursor, a field-block writer or a field-block reader is driven by a list of steps,
each an object naming the operation (`"do"`) and its arguments. A step that fails answers its
error, and the state goes on as the failing call left it; the later steps still run. Each step's
answer carries the state's counters after it.
-/

namespace EntitySync

namespace Request

def unsignedWidth (name : String) : Option Nat :=
  match name with
  | "u8" => some 1 | "u16" => some 2 | "u32" => some 4 | "u64" => some 8 | _ => none

def signedWidth (name : String) : Option Nat :=
  match name with
  | "i8" => some 1 | "i16" => some 2 | "i32" => some 4 | "i64" => some 8 | _ => none

def fitsSigned (w : Nat) (v : Int) : Bool :=
  -((2 ^ (8 * w - 1) : Nat) : Int) ≤ v ∧ v < ((2 ^ (8 * w - 1) : Nat) : Int)

/-- The answer of a step: the value it gave or its failure, and the state as the step left it. -/
def stepAnswer {σ α : Type} (enc : α → Json) : EStateM.Result StreamError σ α → Json × σ
  | .ok a st => (okJson (enc a), st)
  | .error e st => (streamJson e, st)

/-- A value read, as an answer gives it. -/
def readJson : Value → Json
  | .nat n => .nat n
  | .int i => .int i
  | .bytes bs => hexJson bs
  | .str s => .str s

/-- The write a buffer step names, with its arguments; `ty` is the part of the name after the
first underscore. -/
def putOf (name ty : String) (s : Json) : Reading Put := do
  if let some w := unsignedWidth ty then
    return .uint w (← natBelow s "value" (2 ^ (8 * w)))
  if let some w := signedWidth ty then
    let v ← asInt (← field s "value")
    if !fitsSigned w v then refuse "value out of range"
    return .int w v
  match ty with
  | "varu32" => return .varint (← natBelow s "value" (2 ^ (32 : Nat)))
  | "varu64" => return .varint (← natBelow s "value" (2 ^ (64 : Nat)))
  | "bytes" => return .bytes (← hexField s "data")
  | "block" => return .block (← hexField s "data")
  | "string" => return .string (← strField s "text") (← natField s "max_len")
  | _ => refuse s!"unknown step {name}"

/-- The read a buffer step names, with its arguments. -/
def bufferGetOf (name ty : String) (s : Json) : Reading Get := do
  if let some w := unsignedWidth ty then return .uint w
  if let some w := signedWidth ty then return .int w
  match ty with
  | "varu32" => return .varU32
  | "varu64" => return .varU64
  | "bytes" | "into" => return .bytes (← natField s "len")
  | "block" => return .block (← natField s "max_len")
  | "string" => return .string (← natField s "max_len")
  | _ => refuse s!"unknown step {name}"

/-- The call a buffer step names, with its arguments. -/
def callOf (name : String) (s : Json) : Reading Call := do
  let ty := (name.dropWhile (· != '_')).drop 1 |>.toString
  if name.startsWith "write_" then return .put (← putOf name ty s)
  if name.startsWith "read_" then return .get (← bufferGetOf name ty s)
  match name with
  | "clear" => return .clear
  | "begin_reading" => return .beginReading
  | "reset_with_len" => return .resetWithLen (← natField s "len") (← hexFieldOr s "fill")
  | "ensure_free" => return .ensureFree (← natField s "len")
  | _ => refuse s!"unknown step {name}"

/-- One step on a buffer: a call, or a look at its state or its unread bytes. -/
def bufferStep (b : Buffer) (s : Json) : Reading (Json × Buffer) := do
  let name ← strField s "do"
  match name with
  | "state" => return (okJson .null, b)
  | "unread" => return (okJson (hexJson b.unread), b)
  | _ => return stepAnswer (fun v => (v.map readJson).getD .null) ((← callOf name s).run b)

def bufferCounters (b : Buffer) : List (String × Json) :=
  [("cursize", .nat b.size), ("readcount", .nat b.readPos), ("free", .nat b.free)]

/-- Steps on a buffer of `maxsize` bytes, empty or holding `init`. -/
def bufferRequest (j : Json) : Reading Json := do
  let maxsize ← sizeField j "maxsize"
  let start ← match opt j "init" with
    | some v => pure (Buffer.ofBytes (← bytesOfHex (← asStr v)) maxsize)
    | none => pure (.ok (Buffer.empty maxsize))
  match start with
  | .error e => return streamJson e
  | .ok b =>
    let (steps, b) ← runSteps (fun b s => do
      let (r, b) ← bufferStep b s
      return (r.extend (bufferCounters b), b)) b (← arrField j "steps")
    return .obj [("steps", .arr steps), ("bytes", hexJson b.data), ("maxsize", .nat b.capacity),
      ("is_empty", .bool b.data.isEmpty), ("unread_len", .nat b.unreadLen)]

/-- The read a cursor step names, with its arguments. -/
def readerGetOf (name : String) (s : Json) : Reading Get := do
  let ty := (name.dropWhile (· != '_')).drop 1 |>.toString
  if name.startsWith "read_" then
    if let some w := unsignedWidth ty then return .uint w
    if let some w := signedWidth ty then return .int w
  match name with
  | "read_varu32" => return .varU32
  | "read_varu64" => return .varU64
  | "read_bytes" => return .bytes (← natField s "len")
  | "read_array4" => return .bytes 4
  | "read_block" => return .block (← natField s "max_len")
  | "read_string" => return .string (← natField s "max_len")
  | _ => refuse s!"unknown step {name}"

/-- One step on a cursor: a read, or a look at the bytes left. -/
def cursorStep (c : Cursor) (s : Json) : Reading (Json × Cursor) := do
  let name ← strField s "do"
  if name == "rest" then return (okJson (hexJson c.rest), c)
  return stepAnswer readJson ((← readerGetOf name s).run c)

/-- Steps on a cursor over `data` from offset `start`. -/
def cursorRequest (j : Json) : Reading Json := do
  let c := Cursor.atOffset (← hexField j "data") (← natFieldOr j "start" 0)
  let (steps, _) ← runSteps (fun c s => do
    let (r, c) ← cursorStep c s
    return (r.extend [("position", .nat c.pos), ("remaining", .nat c.remaining)], c)) c (← arrField j "steps")
  return .obj [("start", .obj [("position", .nat c.pos), ("remaining", .nat c.remaining),
    ("is_empty", .bool c.isEmpty)]), ("steps", .arr steps)]

def stickyJson : Option StreamError → Json := Json.opt streamJson

def writerStep (w : FieldBlock.Writer) (s : Json) : Reading FieldBlock.Writer := do
  if let some v := opt s "bit" then return w.addBit (← asBool v)
  if let some v := opt s "bits" then
    let b ← asBool v
    let count ← natField s "count"
    if 5000 < count then refuse "count too large"
    return w.addBits b count
  if let some v := opt s "bytes" then return w.addBytes (← bytesOfHex (← asStr v))
  refuse "unknown step"

/-- Steps on a field-block writer, then writing the block into an output buffer. -/
def writerRequest (j : Json) : Reading Json := do
  let w0 := FieldBlock.Writer.new (← natField j "max_payload")
  let w0 ← match opt j "max_fields" with
    | some v => pure (w0.withMaxFields (← asNat v))
    | none => pure w0
  let w ← (← arrField j "steps").foldlM writerStep w0
  let out ← outBuffer j
  let (finish, out') := match w.finishInto.run out with
    | .ok n o => (okJson (.nat n), o)
    | .error e o => (streamJson e, o)
  return .obj [("writer", .obj [("field_count", .nat w.fieldCount), ("any_set", .bool w.anySet),
      ("encoded_len", .nat w.encodedLen), ("payload", hexJson w.payload),
      ("has_error", .bool w.error.isSome), ("sticky", stickyJson w.error)]),
    ("finish", finish), ("out", hexJson out'.data)]

def readerStep (r : FieldBlock.Reader) (s : Json) : Reading (Json × FieldBlock.Reader) := do
  let name ← strField s "do"
  let (v, r) ← match name with
    | "get_bit" => let (b, r) := r.getBit; pure (Json.bool b, r)
    | "get_bytes" => let (bs, r) := r.getBytes (← natField s "len"); pure (hexJson bs, r)
    | "get_array2" => let (bs, r) := r.getBytes 2; pure (hexJson bs, r)
    | "get_string" => let (t, r) := r.getString (← natField s "max_len"); pure (Json.str t, r)
    | "set_error" =>
      let v ← natBelow s "value" (2 ^ (64 : Nat))
      let l ← natBelow s "limit" (2 ^ (64 : Nat))
      pure (Json.null, r.setError (.rangeViolation v l))
    | _ => refuse s!"unknown step {name}"
  return (.obj [("ok", v), ("consumed", .nat r.consumed), ("has_error", .bool r.error.isSome)], r)

/-- Steps on a field-block reader over `data`. -/
def readerRequest (j : Json) : Reading Json := do
  let r := FieldBlock.Reader.begin (Cursor.init (← hexField j "data")) (← natField j "max_fields")
  let beginJ := Json.obj [("declared", .nat r.declared), ("sticky", stickyJson r.error)]
  let (steps, r) ← runSteps readerStep r (← arrField j "steps")
  let finish := match r.finish with
    | .ok _ => okJson .null
    | .error e => streamJson e
  return .obj [("begin", beginJ), ("steps", .arr steps),
    ("end", .obj [("declared", .nat r.declared), ("consumed", .nat r.consumed),
      ("sticky", stickyJson r.error), ("finish", finish)]),
    ("position", .nat r.cursor.pos)]

end Request

end EntitySync
