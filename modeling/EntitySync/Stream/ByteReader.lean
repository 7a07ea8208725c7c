import EntitySync.Stream.Cursor
/-!
# Byte readers

A byte reader reads in place: each read moves its cursor, and a read that fails hands the cursor
back where the read left it. The reads of one value check before they move, so a failure leaves
the cursor where it was. A block is read in two moves, its length and then its bytes; when the
length is out of range or the bytes run short, the read moves the cursor back to where the block
began.

The reads a reader offers are data (`Get`), run by `Get.run`; what they give is a `Value`.
-/

namespace EntitySync

/-- A read from a byte reader: it moves the cursor, and hands the cursor back also when it
fails. -/
abbrev ReadM := EStateM StreamError Cursor

namespace ReadM

variable {α : Type}

/-- A read that checks before it moves: it moves the cursor past what it read, or fails and
leaves the cursor where it was. -/
def ofRead (read : Cursor → Except StreamError (α × Cursor)) : ReadM α := fun c =>
  match read c with
  | .ok (a, c') => .ok a c'
  | .error e => .error e c

/-- A length-prefixed block of at most `maxLen` bytes. The length is read first and moves the
cursor; a length over `maxLen`, or a block cut short, moves the cursor back to where the block
began. -/
def block (maxLen : Nat) : ReadM Bytes := do
  let start ← get
  let len ← ofRead Cursor.readVarU32
  if maxLen < len then
    set start
    throw (.rangeViolation len (maxLen + 1))
  tryCatch (ofRead (·.take len)) fun e => do
    set start
    throw e

end ReadM

/-- What a read gives: a number, a signed number, bytes or a string. -/
inductive Value where
  | nat (n : Nat)
  | int (i : Int)
  | bytes (bs : Bytes)
  | str (s : String)
  deriving DecidableEq, Repr

/-- A read that a byte reader, or a message buffer through one, offers. -/
inductive Get where
  /-- `read_u8` to `read_u64`: `w` little-endian bytes. -/
  | uint (w : Nat)
  /-- `read_i8` to `read_i64`: `w` two's-complement bytes. -/
  | int (w : Nat)
  | varU32
  | varU64
  /-- `read_bytes` and `read_into`: the next `n` bytes. -/
  | bytes (n : Nat)
  | block (maxLen : Nat)
  | string (maxLen : Nat)
  deriving DecidableEq, Repr

/-- Runs a read on a byte reader. -/
def Get.run : Get → ReadM Value
  | .uint w => Value.nat <$> ReadM.ofRead (·.readUInt w)
  | .int w => Value.int <$> ReadM.ofRead (·.readInt w)
  | .varU32 => Value.nat <$> ReadM.ofRead Cursor.readVarU32
  | .varU64 => Value.nat <$> ReadM.ofRead Cursor.readVarU64
  | .bytes n => Value.bytes <$> ReadM.ofRead (·.take n)
  | .block maxLen => Value.bytes <$> ReadM.block maxLen
  | .string maxLen => Value.str <$> ReadM.ofRead (·.readString maxLen)

end EntitySync
