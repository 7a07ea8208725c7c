import EntitySync.Stream.Word
/-!
# Frame limits

The bounds a frame decoder enforces before it trusts any length field: the size of a whole
message, the number and size of its sections, and the size of the config-string table.
-/

namespace EntitySync

/-- Bounds on one frame. -/
structure FrameLimits where
  maxMessageBytes : Nat
  maxSections : Nat
  maxSectionLen : Nat
  maxConfigStrings : Nat
  maxConfigStringLen : Nat
  deriving DecidableEq, Repr

namespace FrameLimits

def standard : FrameLimits := ⟨65536, 4, 65536, 4096, 1024⟩

def testing : FrameLimits := ⟨4096, 2, 1024, 64, 64⟩

def unlimited : FrameLimits := ⟨maxSize, maxSize, maxSize, maxSize, maxSize⟩

end FrameLimits

end EntitySync
