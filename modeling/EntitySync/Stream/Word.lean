import EntitySync.Prelude
/-!
# Words and sizes

Fixed-width integers travel least significant byte first. `toLE w n` gives the `w` low bytes of
`n` and `ofLE` reads them back; signed values go through their two's-complement residue.

Sizes are machine words: a sum of two sizes that would pass the largest word stops there
(`satAdd`), which is how a write that can never fit still reports the size it asked for.
-/

namespace EntitySync

abbrev Bytes := List UInt8

/-- The largest size a length can hold: the top of a 64-bit word. -/
def maxSize : Nat := 2 ^ (64 : Nat) - 1

def satAdd (a b : Nat) : Nat := min (a + b) maxSize

/-- The `w` little-endian bytes of `n`; bits above `8 * w` are dropped. -/
def toLE : Nat → Nat → Bytes
  | 0, _ => []
  | w + 1, n => UInt8.ofNat (n % 256) :: toLE w (n / 256)

def ofLE : Bytes → Nat
  | [] => 0
  | b :: bs => b.toNat + 256 * ofLE bs

def twosComplement (w : Nat) (v : Int) : Nat := (v % (2 ^ (8 * w) : Nat)).toNat

/-- The signed value of a `w`-byte pattern `n`: the top half stands for negatives. -/
def signedOf (w n : Nat) : Int :=
  if n < 2 ^ (8 * w - 1) then n else (n : Int) - (2 ^ (8 * w) : Nat)

@[simp] theorem length_toLE (w n : Nat) : (toLE w n).length = w := by
  induction w generalizing n with
  | zero => rfl
  | succ w ih => simp [toLE, ih]

@[simp] theorem ofLE_nil : ofLE [] = 0 := rfl

@[simp] theorem ofLE_cons (b : UInt8) (bs : Bytes) : ofLE (b :: bs) = b.toNat + 256 * ofLE bs :=
  rfl

end EntitySync
