import EntitySync.FieldBlock.Mask
import EntitySync.Stream.Buffer
/-!
# Writing a field block

A field block is laid out as the field count (a varint), the field mask, and the payload bytes
of the fields whose flag is set, in field order. The writer collects flags and payload under two
budgets, a field count and a payload size. Its first failure is kept: afterwards every addition
changes nothing, and finishing reports that failure and writes nothing.
-/

namespace EntitySync

namespace FieldBlock

/-- A field block being written: the flags so far, the payload so far, their budgets, and the
first failure if there was one. -/
structure Writer where
  flags : List Bool
  maxFields : Nat
  payload : Bytes
  maxPayload : Nat
  error : Option StreamError
  deriving DecidableEq, Repr

namespace Writer

/-- An empty writer with a payload budget of `maxPayload` bytes and room for the most fields a
block can declare. -/
def new (maxPayload : Nat) : Writer := ⟨[], maxBlockFields, [], maxPayload, none⟩

/-- Lowers the field budget to `m`, never above the most fields a block can declare. -/
def withMaxFields (w : Writer) (m : Nat) : Writer := { w with maxFields := min m maxBlockFields }

def fieldCount (w : Writer) : Nat := w.flags.length

/-- Adds the next field's flag, unless the field budget is spent. -/
def addBit (w : Writer) (present : Bool) : Writer :=
  if w.error.isSome then w
  else if w.maxFields ≤ w.flags.length then { w with error := some (.fieldOverflow w.maxFields) }
  else { w with flags := w.flags ++ [present] }

/-- Adds the same flag `n` times. Past the field budget a further flag only records the
overflow, and after that nothing changes, so budget-plus-one additions are as good as `n`. -/
def addBits (w : Writer) (present : Bool) (n : Nat) : Writer :=
  (List.replicate (min n (w.maxFields + 1)) present).foldl addBit w

/-- Adds payload bytes, unless they would pass the payload budget. -/
def addBytes (w : Writer) (bytes : Bytes) : Writer :=
  if w.error.isSome then w
  else
    let attempted := satAdd w.payload.length bytes.length
    if w.maxPayload < attempted then { w with error := some (.bufferOverflow attempted w.maxPayload) }
    else { w with payload := w.payload ++ bytes }

def anySet (w : Writer) : Bool := w.flags.any id

def encoding (w : Writer) : Bytes :=
  encodeVarint w.flags.length ++ packFlags w.flags ++ w.payload

def encodedLen (w : Writer) : Nat :=
  varintLen w.flags.length + maskLen w.flags.length + w.payload.length

/-- Appends the finished block to the output and returns its size, or the writer's failure.
The room for the whole block is checked first; then the count, the mask and the payload are
written one after another. -/
def finishInto (w : Writer) : WriteM StreamError Nat := do
  if let some e := w.error then throw e
  WriteM.ensureFree w.encodedLen
  WriteM.writeVarint w.flags.length
  WriteM.write (packFlags w.flags)
  WriteM.write w.payload
  return w.encodedLen

end Writer

end FieldBlock

end EntitySync
