import EntitySync.Request.Values
/-!
# Requests on frames

Headers, sections, whole frames and config-string tables, written into an output buffer or read
from bytes under limits. A decoding failure inside a section body is answered with the stream
error beside it.
-/

namespace EntitySync

namespace Request

/-- An answer of an encoder that reports the bytes it wrote. -/
def writtenJson (n : Nat) (out : Buffer) : Json := .obj [("written", .nat n), ("out", hexJson out.data)]

def flagsRequest (j : Json) : Reading Json := do
  let f : Flags := ⟨UInt16.ofNat (← natBelow j "raw" (2 ^ (16 : Nat)))⟩
  return .obj [("full", .bool f.isFull), ("delta", .bool f.isDelta),
    ("bootstrap", .bool f.isBootstrap), ("valid", .bool f.isValid)]

/-- A header written into an output buffer. -/
def headerWriteRequest (j : Json) : Reading Json := do
  let h ← headerOf (← field j "header")
  match h.write.run (← outBuffer j) with
  | .ok () o => return .obj [("out", hexJson o.data)]
  | .error e _ => return streamJson e

/-- A frame written into an output buffer. -/
def frameWriteRequest (j : Json) : Reading Json := do
  let h ← headerOf (← field j "header")
  let sections ← (← arrField j "sections").mapM fun s => do
    return (⟨← tagField s, ← hexField s "body"⟩ : Section)
  match (encodeFrame h sections).run (← outBuffer j) with
  | .ok n o => return writtenJson n o
  | .error e _ => return frameEncodeJson e

/-- One section written into an output buffer. -/
def sectionWriteRequest (j : Json) : Reading Json := do
  let tag ← tagField j
  let body ← hexField j "body"
  match (encodeSection tag body).run (← outBuffer j) with
  | .ok n o => return writtenJson n o
  | .error e _ => return frameEncodeJson e

def frameReadRequest (j : Json) : Reading Json := do
  match decodeFrame (← hexField j "data") (← frameLimitsField j "limits" false) with
  | .ok f => return .obj [("header", headerJson f.header), ("sections", .arr (f.sections.map sectionJson))]
  | .error e => return frameJsonWithStream e

def sectionsReadRequest (j : Json) : Reading Json := do
  match decodeSections (← hexField j "data") (← frameLimitsField j "limits" false) with
  | .ok ss => return .obj [("sections", .arr (ss.map sectionJson))]
  | .error e => return frameJson e

/-- A config-string table written into an output buffer. -/
def configWriteRequest (j : Json) : Reading Json := do
  let entries ← (← arrFieldOr j "entries").mapM entryOf
  let limits ← frameLimitsField j "limits" false
  match encodeConfigStrings entries limits (← outBuffer j) with
  | (o, .ok ()) => return .obj [("out", hexJson o.data)]
  | (_, .error e) => return frameEncodeJson e

def configReadRequest (j : Json) : Reading Json := do
  match decodeConfigStrings (← hexField j "data") (← frameLimitsField j "limits" false) with
  | .ok es => return .obj [("entries", .arr (es.map entryJson))]
  | .error e => return frameJsonWithStream e

end Request

end EntitySync
