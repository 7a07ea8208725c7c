import EntitySync.Prelude
/-!
# Stream errors

The failures of the byte-level layer: writing past a buffer's budget, reading past the end of
the data, malformed varints and strings, and the field-mask bookkeeping of a field block.

Each failure belongs to one of two classes. An *overflow* is a write that exceeded a budget
the caller sized; it is a programming error and is fatal. A *corruption* is input that is
shorter than declared or malformed; the record is discarded and the receiver keeps going.
-/

namespace EntitySync

/-- How a caller must treat a failure. -/
inductive ErrorClass where
  /-- A write exceeded a budget that the caller sized. -/
  | overflow
  /-- Input from a peer or a file was short or malformed. -/
  | corrupt
  deriving DecidableEq, Repr

/-- A failure while writing or reading message bytes. -/
inductive StreamError where
  /-- A write would grow a buffer past its capacity. -/
  | bufferOverflow (attempted capacity : Nat)
  /-- A read asked for more bytes than remain. -/
  | unexpectedEnd (requested available : Nat)
  /-- A varint used more groups than its width allows. -/
  | invalidVarint
  /-- A string to be written is over its bound or holds a NUL byte. -/
  | stringTooLong (len maxLen : Nat)
  /-- A string on the wire is unterminated within its bound or not UTF-8. -/
  | invalidString
  /-- A field-mask writer was asked for more fields than its maximum. -/
  | fieldOverflow (max : Nat)
  /-- A field mask on the wire declares more fields than allowed. -/
  | fieldCountExceeded (declared max : Nat)
  /-- A reader asked for more flags than the writer declared. -/
  | fieldsExhausted (declared : Nat)
  /-- A reader finished while set flags were still unread. -/
  | unreadFields (declared consumed : Nat)
  /-- A decoded value lies outside its domain; `limit` is the exclusive bound. -/
  | rangeViolation (value limit : Nat)
  deriving DecidableEq, Repr

namespace StreamError

/-- Budget violations on the writing side are overflows; everything else is corruption. -/
def errorClass : StreamError → ErrorClass
  | bufferOverflow .. | stringTooLong .. | fieldOverflow .. => .overflow
  | _ => .corrupt

/-- A failure is fatal exactly when it is an overflow. -/
def isFatal (e : StreamError) : Bool :=
  e.errorClass == .overflow

def message : StreamError → String
  | bufferOverflow attempted capacity =>
    s!"attempted to write {attempted} bytes but buffer capacity is {capacity} bytes"
  | unexpectedEnd requested available =>
    s!"attempted to read {requested} bytes but only {available} bytes available"
  | invalidVarint => "invalid varint"
  | stringTooLong len maxLen => s!"string of {len} bytes exceeds bound of {maxLen} bytes"
  | invalidString => "unterminated or non-utf8 string"
  | fieldOverflow max => s!"field mask exceeds maximum of {max} fields"
  | fieldCountExceeded declared max => s!"field mask declares {declared} fields, maximum is {max}"
  | fieldsExhausted declared => s!"read past the {declared} declared fields"
  | unreadFields declared consumed =>
    s!"set fields left unread: consumed {consumed} of {declared} declared"
  | rangeViolation value limit => s!"value {value} out of range, must be below {limit}"

end StreamError

end EntitySync
