import EntitySync.Inspect.Report
import EntitySync.Json.Value
/-!
# Reports as JSON

The JSON form of a report, with the keys of every object in alphabetical order. A record that is
not a message has a `null` frame, and a frame checked against no fingerprint has no
`schema_matches` key.
-/

namespace EntitySync

def SectionReport.toJson (s : SectionReport) : Json := .obj [("len", .nat s.len), ("tag", .str s.tag)]

/-- The JSON form of a message summary. -/
def FrameReport.toJson (f : FrameReport) : Json :=
  .obj ([("baseline_tick", .nat f.baselineTick), ("config_strings", .nat f.configStrings),
    ("entity_entries", .nat f.entityEntries), ("kind", .str f.kind), ("schema_hash", .nat f.schemaHash)] ++
    (match f.schemaMatches with | some b => [("schema_matches", .bool b)] | none => []) ++
    [("sections", .arr (f.sections.map SectionReport.toJson)), ("tick", .nat f.tick)])

def RecordReport.toJson (r : RecordReport) : Json :=
  .obj [("frame", Json.opt FrameReport.toJson r.frame), ("index", .nat r.index), ("len", .nat r.len)]

def DemoReport.toJson (r : DemoReport) : Json :=
  .obj [("complete", .bool r.complete),
    ("metadata", .arr (r.metadata.map fun (k, v) => .arr [.str k, .str v])),
    ("metadata_max_size", .nat r.metadataMaxSize), ("payload_bytes", .nat r.payloadBytes),
    ("records", .arr (r.records.map RecordReport.toJson))]

end EntitySync
