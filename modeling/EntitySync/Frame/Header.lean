import EntitySync.Stream.Buffer
/-!
# Frame headers

Every frame opens with a 28-byte header: the magic word `SNPD`, the format version, the flags,
the schema fingerprint, the frame's tick, the tick of the baseline it is relative to, and the
payload length, all little-endian.

The flags say what the frame holds: a full snapshot, a delta against a baseline, or a bootstrap
(a full snapshot that also resets the receiver's config strings). A header is consistent when
exactly one of full and delta is set, bootstrap comes only with full, no other bit is set, and
the baseline tick is zero for a full snapshot and strictly between zero and the tick for a delta.
-/

namespace EntitySync

/-- The flag bits of a frame. -/
structure Flags where
  raw : UInt16
  deriving DecidableEq, Repr

namespace Flags

def isFull (f : Flags) : Bool := f.raw.toNat.testBit 0

def isDelta (f : Flags) : Bool := f.raw.toNat.testBit 1

def isBootstrap (f : Flags) : Bool := f.raw.toNat.testBit 2

/-- No reserved bit is set, bootstrap comes with full, and exactly one of full and delta is set. -/
def isValid (f : Flags) : Bool :=
  f.raw.toNat < 8 && (!f.isBootstrap || f.isFull) && (f.isFull != f.isDelta)

def full : Flags := ⟨1⟩

def delta : Flags := ⟨2⟩

def bootstrap : Flags := ⟨5⟩

end Flags

/-- The magic word `SNPD` read as a little-endian 32-bit number. -/
def frameMagic : Nat := 0x44504E53

def frameVersion : Nat := 1

def headerSize : Nat := 28

/-- The fixed fields at the front of a frame. -/
structure Header where
  version : UInt16
  flags : Flags
  schemaHash : UInt64
  tick : UInt32
  baselineTick : UInt32
  payloadLen : UInt32
  deriving DecidableEq, Repr

namespace Header

def encoding (h : Header) : Bytes :=
  toLE 4 frameMagic ++ toLE 2 h.version.toNat ++ toLE 2 h.flags.raw.toNat ++
    toLE 8 h.schemaHash.toNat ++ toLE 4 h.tick.toNat ++ toLE 4 h.baselineTick.toNat ++
    toLE 4 h.payloadLen.toNat

/-- Appends the header to the output: the room for all 28 bytes is checked first, then the
fields are written one after another. -/
def write (h : Header) : WriteM StreamError Unit := do
  WriteM.ensureFree headerSize
  WriteM.writeUInt 4 frameMagic
  WriteM.writeUInt 2 h.version.toNat
  WriteM.writeUInt 2 h.flags.raw.toNat
  WriteM.writeUInt 8 h.schemaHash.toNat
  WriteM.writeUInt 4 h.tick.toNat
  WriteM.writeUInt 4 h.baselineTick.toNat
  WriteM.writeUInt 4 h.payloadLen.toNat

/-- The little-endian number in bytes `start` to `start + w` of `bs`. -/
def fieldAt (bs : Bytes) (start w : Nat) : Nat := ofLE ((bs.drop start).take w)

/-- The header fields after the magic word in the first 28 bytes of `bs`. -/
def parse (bs : Bytes) : Header where
  version := UInt16.ofNat (fieldAt bs 4 2)
  flags := ⟨UInt16.ofNat (fieldAt bs 6 2)⟩
  schemaHash := UInt64.ofNat (fieldAt bs 8 8)
  tick := UInt32.ofNat (fieldAt bs 16 4)
  baselineTick := UInt32.ofNat (fieldAt bs 20 4)
  payloadLen := UInt32.ofNat (fieldAt bs 24 4)

/-- The baseline tick is zero for a full snapshot, and strictly between zero and the tick
otherwise. -/
def baselineOk (h : Header) : Bool :=
  if h.flags.isFull then h.baselineTick == 0
  else h.baselineTick != 0 && h.baselineTick < h.tick

end Header

end EntitySync
