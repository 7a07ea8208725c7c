import EntitySync.Stream.Word
/-!
# Field masks

A field block opens with one flag per field, packed eight to a byte with the first flag in the
lowest bit. `packFlags` writes the flags and `unpackMask` reads every bit of the mask bytes
back; a reader keeps as many as were declared and ignores the padding bits of the last byte.
-/

namespace EntitySync

def maxBlockFields : Nat := 1024

def maskLen (n : Nat) : Nat := (n + 7) / 8

/-- The byte whose low bits are the given flags, first flag lowest. -/
def flagByte : List Bool → Nat
  | [] => 0
  | f :: fs => (if f then 1 else 0) + 2 * flagByte fs

/-- Flags packed eight to a byte, first flag in the lowest bit. -/
def packFlags (flags : List Bool) : Bytes :=
  if flags.isEmpty then [] else UInt8.ofNat (flagByte (flags.take 8)) :: packFlags (flags.drop 8)
termination_by flags.length
decreasing_by
  cases flags with
  | nil => simp at *
  | cons f fs => simp only [List.length_drop, List.length_cons]; omega

/-- The eight flags of one mask byte, lowest bit first. -/
def byteFlags (b : UInt8) : List Bool := (List.range 8).map b.toNat.testBit

def unpackMask (mask : Bytes) : List Bool := mask.flatMap byteFlags

end EntitySync
