import EntitySync.FieldBlock.Mask
import EntitySync.Stream.Cursor
/-!
# Reading a field block

The reader takes the field count and the mask from a cursor, then hands out one flag per field
and the payload bytes that the caller asks for. Its first failure is kept: afterwards flags read
as clear, payload reads as zeros and strings as empty, and finishing reports that failure.
Finishing also refuses a block whose unread flags include a set one.
-/

namespace EntitySync

namespace FieldBlock

/-- A field block being read: the cursor, the declared flags, how many were consumed, and the
first failure if there was one. -/
structure Reader where
  cursor : Cursor
  flags : List Bool
  consumed : Nat
  error : Option StreamError
  deriving DecidableEq, Repr

namespace Reader

def declared (r : Reader) : Nat := r.flags.length

/-- Starts reading a block at `c` that may declare at most `maxFields` fields (and never more
than a block can declare). A failure here leaves nothing declared. -/
def begin (c : Cursor) (maxFields : Nat) : Reader :=
  let limit := min maxFields maxBlockFields
  match c.readVarU32 with
  | .error e => ⟨c, [], 0, some e⟩
  | .ok (declared, c) =>
    if limit < declared then ⟨c, [], 0, some (.fieldCountExceeded declared limit)⟩
    else match c.take (maskLen declared) with
      | .error e => ⟨c, [], 0, some e⟩
      | .ok (mask, c) => ⟨c, (unpackMask mask).take declared, 0, none⟩

def setError (r : Reader) (e : StreamError) : Reader :=
  if r.error.isSome then r else { r with error := some e }

/-- The next field's flag. Reading past the declared fields is a failure. -/
def getBit (r : Reader) : Bool × Reader :=
  if r.error.isSome then (false, r)
  else match r.flags[r.consumed]? with
    | some f => (f, { r with consumed := r.consumed + 1 })
    | none => (false, r.setError (.fieldsExhausted r.declared))

/-- The next `n` payload bytes, or `n` zeros once a failure is kept. -/
def getBytes (r : Reader) (n : Nat) : Bytes × Reader :=
  if r.error.isSome then (List.replicate n 0, r)
  else match r.cursor.take n with
    | .ok (bs, c) => (bs, { r with cursor := c })
    | .error e => (List.replicate n 0, r.setError e)

/-- The next payload string of at most `maxLen` bytes, or the empty string once a failure is
kept. -/
def getString (r : Reader) (maxLen : Nat) : String × Reader :=
  if r.error.isSome then ("", r)
  else match r.cursor.readString maxLen with
    | .ok (s, c) => (s, { r with cursor := c })
    | .error e => ("", r.setError e)

/-- Ends the block: the kept failure, or a failure when an unread flag is set. -/
def finish (r : Reader) : Except StreamError Unit :=
  match r.error with
  | some e => .error e
  | none =>
    if (r.flags.drop r.consumed).any id then .error (.unreadFields r.declared r.consumed)
    else .ok ()

end Reader

end FieldBlock

end EntitySync
