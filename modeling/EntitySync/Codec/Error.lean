import EntitySync.Frame.Error
import EntitySync.Entity.Value
import EntitySync.Baseline.Store
/-!
# Codec errors

Why entity states or snapshots could not be encoded or decoded. Failures of the layers beneath
(frames, bytes, the baseline history) are kept whole and are the causes of the codec failure.

A failure is fatal when it shows a mistake of the caller rather than bad input: an encoding that
was refused, a value or state that does not fit the schema, a bad baseline or tick, or a refused
change to the history. A stream failure is fatal as the stream error is.
-/

namespace EntitySync

/-- Which codec bound was passed. -/
inductive EntityLimit where
  | entries
  | slots
  | messageBytes
  deriving DecidableEq, Repr

def EntityLimit.describe : EntityLimit → String
  | .entries => "entity entries"
  | .slots => "entity slots"
  | .messageBytes => "message bytes"

/-- Why the codec failed. -/
inductive CodecError where
  | frame (e : FrameError)
  | frameEncode (e : FrameEncodeError)
  | stream (e : StreamError)
  | baseline (e : BaselineError)
  | schemaMismatch (expected found : Nat)
  | limitExceeded (kind : EntityLimit) (limit actual : Nat)
  | encodeLimitExceeded (kind : EntityLimit) (limit actual : Nat)
  | fieldCountMismatch (expected actual : Nat)
  | invalidValue (field : Nat) (reason : ValueReason)
  | unknownField (name : String)
  | invalidSlot (raw : Nat)
  | invalidEntityOrder (previous current : Nat)
  | trailingSectionData (tag : SectionTag) (remaining : Nat)
  | invalidBaseline (tick baselineTick : Nat)
  | zeroTick
  | baselineTickMismatch (expected found : Nat)
  | baselineNotFound (requested : Nat)
  | entityNotFound (slot : Nat)
  | staleMessage (tick latest : Nat)
  deriving DecidableEq, Repr

namespace CodecError

/-- Whether the failure is the caller's mistake rather than bad input. -/
def isFatal : CodecError → Bool
  | stream e => e.isFatal
  | frameEncode _ | encodeLimitExceeded .. | fieldCountMismatch .. | invalidValue ..
  | unknownField _ | invalidBaseline .. | zeroTick | baseline _ => true
  | _ => false

/-- The one-line description of a codec failure. -/
def message : CodecError → String
  | frame e => s!"wire error: {e.message}"
  | frameEncode e => s!"wire encode error: {e.message}"
  | stream e => s!"bitstream error: {e.message}"
  | baseline e => s!"baseline error: {e.message}"
  | schemaMismatch expected found =>
    "schema hash mismatch: expected 0x" ++ hexUpper 16 expected ++ ", found 0x" ++ hexUpper 16 found
  | limitExceeded kind limit actual => s!"{kind.describe} limit exceeded: {actual} > {limit}"
  | encodeLimitExceeded kind limit actual => s!"cannot encode {actual} {kind.describe}, limit is {limit}"
  | fieldCountMismatch expected actual => s!"expected {expected} field values, got {actual}"
  | invalidValue field reason => s!"invalid value for field {field}: {reason.message}"
  | unknownField name => s!"unknown field '{name}'"
  | invalidSlot raw => s!"invalid entity slot {raw}"
  | invalidEntityOrder previous current => s!"entity order invalid: {previous} then {current}"
  | trailingSectionData tag remaining => s!"trailing data in section {tag.name}: {remaining} bytes"
  | invalidBaseline tick baselineTick =>
    if baselineTick = 0 then "tick 0 is reserved and cannot serve as a baseline"
    else s!"baseline tick {baselineTick} is not older than tick {tick}"
  | zeroTick => "tick 0 is reserved and cannot be encoded"
  | baselineTickMismatch expected found => s!"baseline tick mismatch: expected {expected}, found {found}"
  | baselineNotFound requested => s!"baseline tick {requested} not found in history"
  | entityNotFound slot => s!"entity {slot} not found"
  | staleMessage tick latest => s!"stale message for tick {tick}, already at {latest}"

/-- The descriptions of the causes beneath a codec failure, nearest first. -/
def sources : CodecError → List String
  | frame e => e.message :: e.sources
  | frameEncode e => e.message :: e.sources
  | stream e => [e.message]
  | baseline e => [e.message]
  | _ => []

end CodecError

end EntitySync
