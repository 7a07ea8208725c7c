import EntitySync.Stream.Word
/-!
# Codec limits

The bounds on snapshot bodies: the largest slot plus one, the most entries one body may carry,
and how many past snapshots a sender keeps as candidate baselines.
-/

namespace EntitySync

/-- Bounds on snapshot bodies and on the baseline history. -/
structure CodecLimits where
  maxSlots : Nat
  maxEntries : Nat
  baselineHistory : Nat
  deriving DecidableEq, Repr

namespace CodecLimits

def standard : CodecLimits := ⟨8192, 8192, 32⟩

def testing : CodecLimits := ⟨256, 64, 8⟩

/-- No bound on slots and entries, and a long history. -/
def unlimited : CodecLimits := ⟨maxSize, maxSize, 1024⟩

end CodecLimits

end EntitySync
