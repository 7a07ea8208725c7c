import EntitySync.Inspect.Report
import EntitySync.Text.Hex
/-!
# Reports as text

A report in lines for a terminal: the metadata with the bytes it takes, the record count with
the payload size (marked when the recording was cut short), then a line per record. Record
indices are left-aligned in five columns, sizes right-aligned in six, and message kinds
left-aligned in nine.
-/

namespace EntitySync

def RecordReport.line (r : RecordReport) : String :=
  let head := "  #" ++ padRight 5 (toString r.index) ++ " " ++ padLeft 6 (toString r.len) ++ " bytes  "
  match r.frame with
  | none => head ++ "raw\n"
  | some f =>
    let tick := f.tick
    let base := f.baselineTick
    let entries := f.entityEntries
    let config := f.configStrings
    head ++ padRight 9 f.kind ++ s!" tick {tick} base {base}  entries {entries}  config {config}" ++
      (if f.schemaMatches == some false then " schema mismatch" else "") ++ "\n"

def DemoReport.render (r : DemoReport) : String :=
  let used := (r.metadata.map fun (k, v) => k.utf8ByteSize + v.utf8ByteSize + 2).sum
  let block := r.metadataMaxSize
  let count := r.records.length
  let payload := r.payloadBytes
  s!"metadata ({used} of {block} bytes):\n" ++
    String.join (r.metadata.map fun (k, v) => s!"  {k} = {v}\n") ++
    s!"records: {count} ({payload} bytes)" ++
    (if r.complete then "" else " [truncated]") ++ "\n" ++
    String.join (r.records.map RecordReport.line)

end EntitySync
