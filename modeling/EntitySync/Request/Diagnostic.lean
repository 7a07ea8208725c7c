import EntitySync.Request.Basic
import EntitySync.Codec.Error
import EntitySync.Schema.Basic
import EntitySync.Demo.Error
/-!
# Errors as answers

An error answers a request as a JSON object: its code, its message, whether it is fatal (only for
the error families that judge that: stream, codec and recording errors, judged at the outermost
error), and the messages of its causes, nearest first. The code names the error's family and
case; an error that wraps another joins the wrapped error's code after a `/`, from the outside in.
-/

namespace EntitySync

namespace Request

/-- An error as it is answered. -/
structure Diagnostic where
  code : String
  message : String
  fatal : Option Bool
  causes : List String

def Diagnostic.toJson (d : Diagnostic) : Json :=
  .obj ([("error", .str d.code), ("message", .str d.message)] ++
    (match d.fatal with | some b => [("fatal", .bool b)] | none => []) ++
    [("sources", .arr (d.causes.map .str))])

def streamCase : StreamError → String
  | .bufferOverflow .. => "BufferOverflow"
  | .unexpectedEnd .. => "UnexpectedEof"
  | .invalidVarint => "InvalidVarint"
  | .stringTooLong .. => "StringTooLong"
  | .invalidString => "InvalidString"
  | .fieldOverflow .. => "FieldOverflow"
  | .fieldCountExceeded .. => "FieldCountExceeded"
  | .fieldsExhausted .. => "FieldsExhausted"
  | .unreadFields .. => "UnreadFields"
  | .rangeViolation .. => "RangeViolation"

def streamCode (e : StreamError) : String := "BitError::" ++ streamCase e

/-- The code of a frame decoding error. -/
def frameCode : FrameError → String
  | .messageTooSmall .. => "DecodeError::MessageTooSmall"
  | .invalidMagic .. => "DecodeError::InvalidMagic"
  | .unsupportedVersion .. => "DecodeError::UnsupportedVersion"
  | .invalidFlags .. => "DecodeError::InvalidFlags"
  | .invalidBaselineTick .. => "DecodeError::InvalidBaselineTick"
  | .payloadLengthMismatch .. => "DecodeError::PayloadLengthMismatch"
  | .unknownSectionTag .. => "DecodeError::UnknownSectionTag"
  | .duplicateSection .. => "DecodeError::DuplicateSection"
  | .limitExceeded .. => "DecodeError::LimitsExceeded"
  | .framing .invalidVarint => "DecodeError::SectionFraming/SectionFramingError::InvalidVarint"
  | .framing (.truncated ..) => "DecodeError::SectionFraming/SectionFramingError::Truncated"
  | .framing (.trailingBytes ..) => "DecodeError::SectionFraming/SectionFramingError::TrailingBytes"
  | .body _ e => "DecodeError::Body/" ++ streamCode e

/-- The code of a frame encoding error. -/
def frameEncodeCode : FrameEncodeError → String
  | .overflow e => "EncodeError::Overflow/" ++ streamCode e
  | .lengthOverflow .. => "EncodeError::LengthOverflow"
  | .configStringIndex .. => "EncodeError::ConfigStringIndex"

def schemaCode : SchemaError → String
  | .duplicateField .. => "SchemaError::DuplicateField"
  | .emptyFieldName .. => "SchemaError::EmptyFieldName"
  | .tooManyFields .. => "SchemaError::TooManyFields"
  | .invalidEnum .. => "SchemaError::InvalidEnum"
  | .invalidStringBound .. => "SchemaError::InvalidStringBound"

def baselineCode : BaselineError → String
  | .outOfOrder .. => "BaselineError::OutOfOrder"
  | .notFound .. => "BaselineError::NotFound"

def codecCode : CodecError → String
  | .frame e => "CodecError::Wire/" ++ frameCode e
  | .frameEncode e => "CodecError::WireEncode/" ++ frameEncodeCode e
  | .stream e => "CodecError::Bitstream/" ++ streamCode e
  | .baseline e => "CodecError::Baseline/" ++ baselineCode e
  | .schemaMismatch .. => "CodecError::SchemaMismatch"
  | .limitExceeded .. => "CodecError::LimitsExceeded"
  | .encodeLimitExceeded .. => "CodecError::EncodeLimitExceeded"
  | .fieldCountMismatch .. => "CodecError::FieldCountMismatch"
  | .invalidValue .. => "CodecError::InvalidValue"
  | .unknownField .. => "CodecError::UnknownField"
  | .invalidSlot .. => "CodecError::InvalidSlot"
  | .invalidEntityOrder .. => "CodecError::InvalidEntityOrder"
  | .trailingSectionData .. => "CodecError::TrailingSectionData"
  | .invalidBaseline .. => "CodecError::InvalidBaseline"
  | .zeroTick => "CodecError::ZeroTick"
  | .baselineTickMismatch .. => "CodecError::BaselineTickMismatch"
  | .baselineNotFound .. => "CodecError::BaselineNotFound"
  | .entityNotFound .. => "CodecError::EntityNotFound"
  | .staleMessage .. => "CodecError::StaleMessage"

def streamJson (e : StreamError) : Json := (Diagnostic.mk (streamCode e) e.message (some e.isFatal) []).toJson

def frameJson (e : FrameError) : Json := (Diagnostic.mk (frameCode e) e.message none e.sources).toJson

/-- A frame decoding error as an answer, with the stream error inside it beside it. -/
def frameJsonWithStream (e : FrameError) : Json :=
  (frameJson e).extend [("bit_error", Json.opt (fun b => .str b.message) e.bitError)]

def frameEncodeJson (e : FrameEncodeError) : Json :=
  (Diagnostic.mk (frameEncodeCode e) e.message none e.sources).toJson

def schemaJson (e : SchemaError) : Json := (Diagnostic.mk (schemaCode e) e.message none []).toJson

def baselineJson (e : BaselineError) : Json := (Diagnostic.mk (baselineCode e) e.message none []).toJson

def codecJson (e : CodecError) : Json :=
  (Diagnostic.mk (codecCode e) e.message (some e.isFatal) e.sources).toJson

def fileCase : FileError → String
  | .unexpectedEnd => "UnexpectedEof"
  | .notFound => "NotFound"
  | .isDirectory => "IsADirectory"
  | .notDirectory => "NotADirectory"
  | .invalidText => "InvalidData"

def metadataCode : MetadataError → String
  | .tooLarge .. => "MetadataError::TooLarge"
  | .invalidEntry .. => "MetadataError::InvalidEntry"
  | .badHeader .. => "MetadataError::BadHeader"
  | .unterminated => "MetadataError::Unterminated"
  | .invalidUtf8 => "MetadataError::InvalidUtf8"

def demoCode : DemoError → String
  | .file e => "DemoError::Io/" ++ fileCase e
  | .corrupt .. => "DemoError::Corrupt"
  | .truncated .. => "DemoError::Truncated"
  | .metadata e => "DemoError::Metadata/" ++ metadataCode e
  | .messageTooLarge .. => "DemoError::MessageTooLarge"
  | .invalidSkip .. => "DemoError::InvalidSkip"
  | .stream e => "DemoError::Bitstream/" ++ streamCode e
  | .codec e => "DemoError::Codec/" ++ codecCode e

def metadataJson (e : MetadataError) : Json := (Diagnostic.mk (metadataCode e) e.message none []).toJson

def demoJson (e : DemoError) : Json :=
  (Diagnostic.mk (demoCode e) e.message (some e.isFatal) e.sources).toJson

/-- Ends the request with a codec error as its answer. -/
def orCodec {α : Type} : Except CodecError α → Reading α
  | .ok a => pure a
  | .error e => answerNow (codecJson e)

end Request

end EntitySync
