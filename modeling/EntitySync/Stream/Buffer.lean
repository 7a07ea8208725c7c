import EntitySync.Stream.ByteReader
/-!
# Message buffers

A message buffer holds the bytes of one message under a fixed capacity, with a read position
into them. Its methods change it in place (`WriteM`): a write checks the room for what it will
append and then appends it, and a read runs a byte reader from the read position and moves the
position to wherever the reader stopped, also when the read failed.

So whether a failed call leaves the buffer as it was depends on the order of each method's
steps: a block checks the room for its length and its bytes before it writes the length, and a
string checks the room for itself and its terminator before it appends either; a block read
moves its reader back when it fails.

The calls a buffer offers are data (`Put`, `Get`, `Call`), run by `Call.run`.
-/

namespace EntitySync

/-- A message under construction or being read: its bytes, its capacity and a read position. -/
structure Buffer where
  data : Bytes
  capacity : Nat
  readPos : Nat
  deriving DecidableEq, Repr

namespace Buffer

def empty (capacity : Nat) : Buffer := ⟨[], capacity, 0⟩

def size (b : Buffer) : Nat := b.data.length

def free (b : Buffer) : Nat := b.capacity - b.data.length

def unread (b : Buffer) : Bytes := b.data.drop b.readPos

def unreadLen (b : Buffer) : Nat := b.data.length - b.readPos

def clear (b : Buffer) : Buffer := ⟨[], b.capacity, 0⟩

def beginReading (b : Buffer) : Buffer := { b with readPos := 0 }

/-- Succeeds when `len` more bytes fit; otherwise reports the size that was asked for. -/
def ensureFree (b : Buffer) (len : Nat) : Except StreamError Unit :=
  let attempted := satAdd b.data.length len
  if b.capacity < attempted then .error (.bufferOverflow attempted b.capacity) else .ok ()

/-- Replaces the contents by `len` bytes, when `len` is within the capacity: they start with as
much of `fill` as fits and are zero after it. -/
def resetWithLen (b : Buffer) (len : Nat) (fill : Bytes) : Except StreamError Buffer :=
  if b.capacity < len then .error (.bufferOverflow len b.capacity)
  else .ok ⟨fill.take len ++ List.replicate (len - fill.length) 0, b.capacity, 0⟩

def write (b : Buffer) (bytes : Bytes) : Except StreamError Buffer := do
  b.ensureFree bytes.length
  return { b with data := b.data ++ bytes }

def ofBytes (bytes : Bytes) (capacity : Nat) : Except StreamError Buffer :=
  (empty capacity).write bytes

/-- Appends the varint of `v`, all of it or nothing. -/
def writeVarint (b : Buffer) (v : Nat) : Except StreamError Buffer :=
  b.write (encodeVarint v)

end Buffer

/-- A step that writes into an output buffer and may fail. As with a buffer lent by mutable
reference, a failure keeps whatever was written before it: the buffer is returned either way. -/
abbrev WriteM (ε : Type) := EStateM ε Buffer

namespace WriteM

/-- Appends `bytes` to the output, all of them or nothing. -/
def write (bytes : Bytes) : WriteM StreamError Unit := fun b =>
  match b.write bytes with
  | .ok b' => .ok () b'
  | .error e => .error e b

/-- Fails unless `len` more bytes fit into the output. -/
def ensureFree (len : Nat) : WriteM StreamError Unit := fun b =>
  match b.ensureFree len with
  | .ok () => .ok () b
  | .error e => .error e b

/-- Appends `bytes` without looking at the room: the caller has checked it. -/
def extend {ε : Type} (bytes : Bytes) : WriteM ε Unit :=
  modify fun b => { b with data := b.data ++ bytes }

def writeUInt (w n : Nat) : WriteM StreamError Unit := write (toLE w n)

def writeInt (w : Nat) (v : Int) : WriteM StreamError Unit := write (toLE w (twosComplement w v))

def writeVarint (v : Nat) : WriteM StreamError Unit := write (encodeVarint v)

/-- Appends a block: its length as a varint, then its bytes. A length past 32 bits is refused;
then the room for the whole block is checked before the length is written. -/
def writeBlock (bytes : Bytes) : WriteM StreamError Unit := do
  let b ← get
  if 2 ^ (32 : Nat) ≤ bytes.length then throw (.bufferOverflow bytes.length b.capacity)
  ensureFree (varintLen bytes.length + bytes.length)
  writeVarint bytes.length
  write bytes

/-- Appends a string and its NUL terminator. A string over `maxLen` bytes, or one holding a NUL
byte, is refused before any room is checked; then the room for the string and its terminator is
checked, and both are appended. -/
def writeString (text : String) (maxLen : Nat) : WriteM StreamError Unit := do
  let bytes := encodeUtf8 text
  if maxLen < bytes.length ∨ bytes.contains 0 then throw (.stringTooLong bytes.length maxLen)
  ensureFree (bytes.length + 1)
  extend bytes
  extend [0]

end WriteM

namespace Buffer

/-- Appends a string and its terminator as `WriteM.writeString` does: the buffer it leaves, or
its failure. -/
def writeString (b : Buffer) (text : String) (maxLen : Nat) : Except StreamError Buffer :=
  match (WriteM.writeString text maxLen).run b with
  | .ok () b' => .ok b'
  | .error e _ => .error e

/-- Runs a byte reader from the read position and moves the position to where the reader
stopped, whether the read succeeded or not. -/
def withReader {α : Type} (read : ReadM α) : WriteM StreamError α := fun b =>
  match read.run (Cursor.atOffset b.data b.readPos) with
  | .ok a c => .ok a { b with readPos := c.pos }
  | .error e c => .error e { b with readPos := c.pos }

end Buffer

/-- A write into a message buffer. -/
inductive Put where
  /-- `write_u8` to `write_u64`: `n` in `w` little-endian bytes. -/
  | uint (w n : Nat)
  /-- `write_i8` to `write_i64`: `v` in `w` two's-complement bytes. -/
  | int (w : Nat) (v : Int)
  /-- `write_varu32` and `write_varu64`. -/
  | varint (v : Nat)
  | bytes (bs : Bytes)
  | block (bs : Bytes)
  | string (text : String) (maxLen : Nat)
  deriving DecidableEq, Repr

def Put.run : Put → WriteM StreamError Unit
  | .uint w n => WriteM.writeUInt w n
  | .int w v => WriteM.writeInt w v
  | .varint v => WriteM.writeVarint v
  | .bytes bs => WriteM.write bs
  | .block bs => WriteM.writeBlock bs
  | .string text maxLen => WriteM.writeString text maxLen

/-- A call on a message buffer: a write, a read, or one of the calls that reset it or check its
room. -/
inductive Call where
  | put (p : Put)
  | get (g : Get)
  | clear
  | beginReading
  /-- `reset_with_len`, then the first bytes overwritten with `fill`. -/
  | resetWithLen (len : Nat) (fill : Bytes)
  | ensureFree (len : Nat)
  deriving DecidableEq, Repr

/-- Runs a call on a buffer: the value it read, if any, and the buffer as it leaves it. -/
def Call.run : Call → WriteM StreamError (Option Value)
  | .put p => do p.run; pure none
  | .get g => some <$> Buffer.withReader g.run
  | .clear => do modify Buffer.clear; pure none
  | .beginReading => do modify Buffer.beginReading; pure none
  | .resetWithLen len fill => fun b =>
    match b.resetWithLen len fill with
    | .ok b' => .ok none b'
    | .error e => .error e b
  | .ensureFree len => do WriteM.ensureFree len; pure none

end EntitySync
