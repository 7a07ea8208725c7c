import EntitySync.Codec.Limits
import EntitySync.Frame.Limits
/-!
# Recording settings

The sizes a recording is written and read with: the longest record a reader accepts (which is
also the size of the recorder's live buffer), the size of the reserved metadata block, and the
limits on the messages and snapshot bodies inside records.
-/

namespace EntitySync

/-- The sizes and limits of a recording. -/
structure DemoConfig where
  maxMessageSize : Nat
  metadataMaxSize : Nat
  codec : CodecLimits
  frame : FrameLimits
  deriving Repr

namespace DemoConfig

/-- The standard settings: 64 KiB records and a 64 KiB metadata block. -/
def standard : DemoConfig := ⟨65536, 65536, CodecLimits.standard, FrameLimits.standard⟩

/-- Small settings for tests: 4 KiB records and a 256-byte metadata block. -/
def testing : DemoConfig := ⟨4096, 256, CodecLimits.testing, FrameLimits.testing⟩

end DemoConfig

end EntitySync
