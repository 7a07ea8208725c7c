import EntitySync.Demo.Player
import EntitySync.Frame.Message
/-!
# Inspecting recordings

A report of a recording lists its metadata, the size of its metadata block, and every record
with its size and, when the record is a well-formed message under the given limits, a summary of
its header and sections: its kind, ticks and schema fingerprint (and whether the fingerprint is
the expected one, when one is given), the counts that open its config-string and entities
sections, and each section's size. A recording cut short is reported as incomplete, not as an
error.
-/

namespace EntitySync

/-- A section of a message: its name and the size of its body. -/
structure SectionReport where
  tag : String
  len : Nat
  deriving DecidableEq, Repr

/-- The header and sections of a message. -/
structure FrameReport where
  kind : String
  tick : Nat
  baselineTick : Nat
  schemaHash : Nat
  schemaMatches : Option Bool
  configStrings : Nat
  entityEntries : Nat
  sections : List SectionReport
  deriving DecidableEq, Repr

/-- One record: its index, its size and, if it is a message, its summary. -/
structure RecordReport where
  index : Nat
  len : Nat
  frame : Option FrameReport
  deriving DecidableEq, Repr

/-- A whole recording. -/
structure DemoReport where
  metadata : List (String × String)
  metadataMaxSize : Nat
  records : List RecordReport
  payloadBytes : Nat
  complete : Bool
  deriving DecidableEq, Repr

def SectionTag.reportName : SectionTag → String
  | .configStrings => "config_strings"
  | .entities => "entities"

/-- The count a section body opens with, or zero. -/
def leadingCount (body : Option Bytes) : Nat :=
  match body with
  | some b => match decodeVarU32 b with
    | .ok (n, _) => n
    | .error _ => 0
  | none => 0

/-- The summary of a message, or nothing when the bytes are not one. -/
def inspectFrame (bytes : Bytes) (limits : FrameLimits) (hash : Option Nat) : Option FrameReport :=
  match decodeFrame bytes limits with
  | .error _ => none
  | .ok f =>
    let h := f.header
    let kind := if h.flags.isBootstrap then "bootstrap" else if h.flags.isDelta then "delta" else "full"
    some { kind := kind, tick := h.tick.toNat, baselineTick := h.baselineTick.toNat,
           schemaHash := h.schemaHash.toNat, schemaMatches := hash.map (· == h.schemaHash.toNat),
           configStrings := leadingCount (f.body? .configStrings),
           entityEntries := leadingCount (f.body? .entities),
           sections := f.sections.map fun s => ⟨s.tag.reportName, s.body.length⟩ }

/-- Reads records until the end marker, collecting their reports after `acc`; `fuel` bounds the
number of reads, and a recording of `n` bytes needs fewer than `n + 1`. Returns the records and
whether the end marker was found. -/
def inspectRecords (config : DemoConfig) (hash : Option Nat) :
    Nat → Player → Buffer → List RecordReport → Except DemoError (List RecordReport × Bool)
  | 0, _, _, acc => .ok (acc.reverse, false)
  | fuel + 1, p, msg, acc =>
    match p.readInto msg with
    | (.ok .record, p, msg) =>
      let report := ⟨acc.length, msg.size, inspectFrame msg.data config.frame hash⟩
      inspectRecords config hash fuel p msg (report :: acc)
    | (.ok .endOfStream, _, _) => .ok (acc.reverse, true)
    | (.error (.truncated _), _, _) => .ok (acc.reverse, false)
    | (.error e, _, _) => .error e

def inspectDemo (data : Bytes) (config : DemoConfig) (hash : Option Nat) : Except DemoError DemoReport := do
  let p ← Player.load data config
  let (records, complete) ← inspectRecords config hash (data.length + 1) p
    (Buffer.empty config.maxMessageSize) []
  return ⟨p.metadata.entries, p.metadataMaxSize, records, (records.map (·.len)).sum, complete⟩

end EntitySync
