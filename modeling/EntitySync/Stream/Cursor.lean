import EntitySync.Stream.Varint
import EntitySync.Text.Utf8
/-!
# Cursors

A cursor is a reading position in a byte string: the bytes not yet read and how many were read
before them. Every read either succeeds and moves the cursor past what it read, or fails and
leaves the cursor where it was, so a failed read is never half done.
-/

namespace EntitySync

/-- A reading position: `pos` bytes have been read and `rest` remains. -/
structure Cursor where
  rest : Bytes
  pos : Nat
  deriving DecidableEq, Repr

namespace Cursor

def init (data : Bytes) : Cursor := ⟨data, 0⟩

/-- A cursor at offset `start` of `data`, or at its end when `start` lies beyond it. -/
def atOffset (data : Bytes) (start : Nat) : Cursor :=
  let pos := min start data.length
  ⟨data.drop pos, pos⟩

def remaining (c : Cursor) : Nat := c.rest.length

def isEmpty (c : Cursor) : Bool := c.rest.isEmpty

/-- The next `n` bytes, or the shortfall when fewer remain. -/
def take (c : Cursor) (n : Nat) : Except StreamError (Bytes × Cursor) :=
  if n ≤ c.rest.length then .ok (c.rest.take n, ⟨c.rest.drop n, c.pos + n⟩)
  else .error (.unexpectedEnd n c.rest.length)

def readUInt (c : Cursor) (w : Nat) : Except StreamError (Nat × Cursor) := do
  let (bs, c) ← c.take w
  return (ofLE bs, c)

def readInt (c : Cursor) (w : Nat) : Except StreamError (Int × Cursor) := do
  let (n, c) ← c.readUInt w
  return (signedOf w n, c)

def readVarint (c : Cursor) (maxBytes : Nat) : Except StreamError (Nat × Cursor) := do
  let (v, n) ← decodeVarint maxBytes c.rest
  return (v, ⟨c.rest.drop n, c.pos + n⟩)

/-- A varint holding a 32-bit value: at most five groups, and below `2 ^ 32`. -/
def readVarU32 (c : Cursor) : Except StreamError (Nat × Cursor) := do
  let (v, n) ← decodeVarU32 c.rest
  return (v, ⟨c.rest.drop n, c.pos + n⟩)

/-- A varint holding a 64-bit value: at most ten groups. -/
def readVarU64 (c : Cursor) : Except StreamError (Nat × Cursor) :=
  c.readVarint 10

/-- A NUL-terminated UTF-8 string of at most `maxLen` bytes before its terminator. The
terminator is looked for among the next `maxLen + 1` bytes; when those run out first, the read
asked for one byte more than it found. -/
def readString (c : Cursor) (maxLen : Nat) : Except StreamError (String × Cursor) :=
  let bound := satAdd maxLen 1
  let window := c.rest.take bound
  match window.findIdx? (· == 0) with
  | none =>
    if window.length < bound then .error (.unexpectedEnd (window.length + 1) c.rest.length)
    else .error .invalidString
  | some nul =>
    match stringOfUtf8 (c.rest.take nul) with
    | some s => .ok (s, ⟨c.rest.drop (nul + 1), c.pos + nul + 1⟩)
    | none => .error .invalidString

end Cursor

end EntitySync
