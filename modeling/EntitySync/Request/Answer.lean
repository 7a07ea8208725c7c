import EntitySync.Request.Bitstream
import EntitySync.Request.Wire
import EntitySync.Request.Schema
import EntitySync.Request.Codec
import EntitySync.Request.Session
import EntitySync.Request.Demo
import EntitySync.Request.Tool
import EntitySync.Json.Parse
import EntitySync.Json.Print
/-!
# Answering requests

A request's `"op"` names the operation. A malformed request is answered
`{"error": "bad_input", "message": reason}`. Error answers list the messages of their causes
(and, for frame decoding, the stream error inside) only when the request sets `"chain": true`.
-/

namespace EntitySync

namespace Request

def dispatch (j : Json) : Reading Json := do
  match ← strField j "op" with
  | "varint_len" => return .obj [("len", .nat (varintLen (← natBelow j "value" (2 ^ (64 : Nat)))))]
  | "mask_len" => return .obj [("len", .nat (maskLen (← natField j "count")))]
  | "buffer" => bufferRequest j
  | "reader" => cursorRequest j
  | "delta_write" => writerRequest j
  | "delta_read" => readerRequest j
  | "flags" => flagsRequest j
  | "section_len" => return .obj [("len", .nat (sectionLen (← natField j "body_len")))]
  | "header_write" => headerWriteRequest j
  | "wire_encode" => frameWriteRequest j
  | "encode_section" => sectionWriteRequest j
  | "wire_decode" => frameReadRequest j
  | "decode_sections" => sectionsReadRequest j
  | "config_encode" => configWriteRequest j
  | "config_decode" => configReadRequest j
  | "schema" => schemaRequest j
  | "field_kind" => kindRequest j
  | "enum_width" => enumWidthRequest j
  | "quant" => quantRequest j
  | "value_check" => valueCheckRequest j
  | "entity_state" => stateRequest j
  | "encode_fields" => fieldsWriteRequest j
  | "decode_fields" => fieldsReadRequest j
  | "encode_entity" => entityWriteRequest j
  | "decode_entity" => entityReadRequest j
  | "baseline_store" => historyRequest j
  | "snapshot" => snapshotRequest j
  | "types" => tickSlotRequest j
  | "encode_snapshot_delta" => bodyWriteRequest j
  | "decode_snapshot_delta" => bodyReadRequest j
  | "encode_message" => messageWriteRequest j
  | "decode_message" => messageReadRequest j
  | "session" => sessionRequest j
  | "metadata_record_len" => return .obj [("len", .nat (metadataRecordLen (← natField j "max_size")))]
  | "metadata" => metadataRequest j
  | "read_metadata_record" => metadataReadRequest j
  | "demo_record" => recordRequest j
  | "demo_play" => playRequest j
  | "demo_playback" => playbackRequest j
  | "inspect_demo" => inspectRequest j
  | "inspect_frame" => inspectFrameRequest j
  | "parse_assignment" => assignmentRequest j
  | "rewrite_metadata" => replaceMetadataRequest j
  | "cli" => toolRequest j
  | op => refuse s!"unknown op {op}"

def isErrorObject (fields : List (String × Json)) : Bool := fields.any (·.1 == "error")

mutual

/-- The value with the causes dropped from every error answer inside it. -/
def dropCauses : Json → Json
  | .obj fields => .obj (dropCausesFields (isErrorObject fields) fields)
  | .arr items => .arr (dropCausesItems items)
  | other => other

def dropCausesItems : List Json → List Json
  | [] => []
  | j :: rest => dropCauses j :: dropCausesItems rest

/-- Object fields with the causes dropped; `inError` says whether the object is an error
answer, whose own cause fields go. -/
def dropCausesFields (inError : Bool) : List (String × Json) → List (String × Json)
  | [] => []
  | (k, v) :: rest =>
    if inError && (k == "sources" || k == "bit_error") then dropCausesFields inError rest
    else (k, dropCauses v) :: dropCausesFields inError rest

end

def refusalJson (reason : String) : Json := .obj [("error", .str "bad_input"), ("message", .str reason)]

def answer (j : Json) : Json :=
  let chain := match opt j "chain" with | some (.bool true) => true | _ => false
  let keep := fun (r : Json) => if chain then r else dropCauses r
  match dispatch j with
  | .ok r => keep r
  | .error (.answer r) => keep r
  | .error (.refuse reason) => refusalJson reason

/-- The answer to a request line, on one line. -/
def answerLine (line : String) : String :=
  match Json.parse line with
  | .error why => (refusalJson ("invalid json: " ++ why)).compact
  | .ok j => (answer j).compact

end Request

end EntitySync
