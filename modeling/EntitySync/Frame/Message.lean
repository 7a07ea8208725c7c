import EntitySync.Frame.Header
import EntitySync.Frame.Error
import EntitySync.Frame.Limits
/-!
# Frames

A frame is a header and its sections. Decoding checks, in this order, the size of the message,
the magic word, the version, the flags, the baseline tick and the payload length, and then
cuts the payload into sections under the limits: at most `maxSections` of them, none longer
than `maxSectionLen`, each tag known and none repeated. Encoding computes the payload length
itself and writes the whole frame or nothing.
-/

namespace EntitySync

/-- A decoded frame: its header and its sections in order. -/
structure Frame where
  header : Header
  sections : List Section
  deriving DecidableEq, Repr

/-- The body of the frame's section of the given kind, if it has one. -/
def Frame.body? (f : Frame) (tag : SectionTag) : Option Bytes :=
  (f.sections.find? (·.tag == tag)).map (·.body)

/-- A stream failure while cutting a section out of the payload. -/
def framingOf : StreamError → FrameError
  | .unexpectedEnd requested available => .framing (.truncated requested available)
  | _ => .framing .invalidVarint

/-- Cuts `rest` into sections after the sections `acc` already found. -/
def decodeSectionsFrom (limits : FrameLimits) (acc : List Section) (rest : Bytes) :
    Except FrameError (List Section) :=
  match rest with
  | [] => .ok acc
  | tagByte :: afterTag =>
    if limits.maxSections ≤ acc.length then
      .error (.limitExceeded .sectionCount limits.maxSections (acc.length + 1))
    else
      match decodeVarU32 afterTag with
      | .error e => .error (framingOf e)
      | .ok (len, n) =>
        let afterLen := afterTag.drop n
        if limits.maxSectionLen < len then
          .error (.limitExceeded .sectionLength limits.maxSectionLen len)
        else if afterLen.length < len then
          .error (framingOf (.unexpectedEnd len afterLen.length))
        else
          match SectionTag.ofCode? tagByte.toNat with
          | none => .error (.unknownSectionTag tagByte.toNat)
          | some tag =>
            if acc.any (·.tag == tag) then .error (.duplicateSection tag)
            else decodeSectionsFrom limits (acc ++ [⟨tag, afterLen.take len⟩]) (afterLen.drop len)
termination_by rest.length
decreasing_by simp only [List.length_drop, List.length_cons]; omega

def decodeSections (payload : Bytes) (limits : FrameLimits) : Except FrameError (List Section) :=
  decodeSectionsFrom limits [] payload

def decodeFrame (bytes : Bytes) (limits : FrameLimits) : Except FrameError Frame := do
  let len := bytes.length
  if len < headerSize then throw (.messageTooSmall len headerSize)
  if limits.maxMessageBytes < len then throw (.limitExceeded .messageBytes limits.maxMessageBytes len)
  let magic := ofLE (bytes.take 4)
  if magic != frameMagic then throw (.invalidMagic magic)
  let header := Header.parse bytes
  if header.version.toNat != frameVersion then throw (.unsupportedVersion header.version.toNat)
  if !header.flags.isValid then throw (.invalidFlags header.flags.raw.toNat)
  if !header.baselineOk then
    throw (.invalidBaselineTick header.tick.toNat header.baselineTick.toNat header.flags.raw.toNat)
  let payload := bytes.drop headerSize
  if header.payloadLen.toNat != payload.length then
    throw (.payloadLengthMismatch header.payloadLen.toNat payload.length)
  let sections ← decodeSections payload limits
  return ⟨header, sections⟩

/-- Appends one section to the output and returns its size: the room for the whole section is
checked first, then the tag, the length and the body are written. -/
def encodeSection (tag : SectionTag) (body : Bytes) : WriteM FrameEncodeError Nat := do
  if 2 ^ (32 : Nat) ≤ body.length then throw (.lengthOverflow body.length)
  let needed := sectionLen body.length
  (WriteM.ensureFree needed).adaptExcept .overflow
  (WriteM.write [UInt8.ofNat tag.code]).adaptExcept .overflow
  (WriteM.writeVarint body.length).adaptExcept .overflow
  (WriteM.write body).adaptExcept .overflow
  return needed

def encodeSections : List Section → WriteM FrameEncodeError Unit
  | [] => pure ()
  | s :: rest => do
    let _ ← encodeSection s.tag s.body
    encodeSections rest

/-- Appends a frame to the output and returns its size. The header's payload length is
replaced by the sections' total size; the room for the whole frame is checked before the
header and the sections are written. -/
def encodeFrame (header : Header) (sections : List Section) : WriteM FrameEncodeError Nat := do
  let payloadLen := (sections.map fun s => sectionLen s.body.length).sum
  if 2 ^ (32 : Nat) ≤ payloadLen then throw (.lengthOverflow payloadLen)
  let total := headerSize + payloadLen
  (WriteM.ensureFree total).adaptExcept .overflow
  (Header.write { header with payloadLen := UInt32.ofNat payloadLen }).adaptExcept .overflow
  encodeSections sections
  return total

end EntitySync
