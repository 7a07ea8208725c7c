import EntitySync.Json.Value
import EntitySync.Stream.Word
/-!
# Requests

A request is a JSON object that names an operation of the library and gives its arguments; its
answer is a JSON value. Reading the arguments stops in one of two ways: the request is
malformed (`Stop.refuse`, with the reason), or the answer is already known, as when building an
argument fails inside the library and that failure is the answer (`Stop.answer`).

This module holds the readers of argument fields. A field that is absent and one that is `null`
are the same, but for an array that must be there. Byte strings are written in hex, two digits a
byte, each pair read as a number (so a plus sign may stand for a leading zero); sizes of buffers
that a request asks for are bounded by `allocationBound`.
-/

namespace EntitySync

namespace Request

/-- How reading a request ends before its operation has run. -/
inductive Stop where
  /-- The request is malformed. -/
  | refuse (reason : String)
  /-- The answer is known already. -/
  | answer (j : Json)

abbrev Reading := Except Stop

def refuse {α : Type} (reason : String) : Reading α := throw (.refuse reason)

def answerNow {α : Type} (j : Json) : Reading α := throw (.answer j)

/-- The value of a field, with `null` read as absent. -/
def opt (j : Json) (k : String) : Option Json :=
  match j.get? k with
  | some .null => none
  | other => other

/-- The value of a field that must be present. -/
def field (j : Json) (k : String) : Reading Json :=
  match opt j k with
  | some v => pure v
  | none => refuse s!"missing field '{k}'"

def asInt (j : Json) : Reading Int :=
  match j.int? with
  | some i => pure i
  | none => refuse "expected an integer"

def asNat (j : Json) : Reading Nat := do
  let i ← asInt j
  if i < 0 then refuse "expected a non-negative integer"
  pure i.toNat

def asBool (j : Json) : Reading Bool :=
  match j with
  | .bool b => pure b
  | _ => refuse "expected a boolean"

def asStr (j : Json) : Reading String :=
  match j with
  | .str s => pure s
  | _ => refuse "expected a string"

def asArr (j : Json) : Reading (List Json) :=
  match j with
  | .arr a => pure a
  | _ => refuse "expected an array"

/-- An integer between `lo` and `hi`, both included. -/
def asIntIn (j : Json) (lo hi : Int) : Reading Int := do
  let v ← asInt j
  if v < lo || v > hi then refuse "value out of range"
  pure v

def natBelow (j : Json) (k : String) (bound : Nat) : Reading Nat := do
  let n ← asNat (← field j k)
  if bound ≤ n then refuse s!"field '{k}' out of range"
  pure n

/-- An optional natural-number field below `bound`, `d` when absent. -/
def natBelowOr (j : Json) (k : String) (bound d : Nat) : Reading Nat := do
  match opt j k with
  | none => pure d
  | some v =>
    let n ← asNat v
    if bound ≤ n then refuse s!"field '{k}' out of range"
    pure n

def natField (j : Json) (k : String) : Reading Nat := do asNat (← field j k)

/-- An optional natural-number field, `d` when absent. -/
def natFieldOr (j : Json) (k : String) (d : Nat) : Reading Nat :=
  match opt j k with
  | some v => asNat v
  | none => pure d

def strField (j : Json) (k : String) : Reading String := do asStr (← field j k)

/-- An optional boolean field, `d` when absent; a value that is not a boolean counts as
absent. -/
def boolFieldOr (j : Json) (k : String) (d : Bool) : Reading Bool :=
  match opt j k with
  | some (.bool b) => pure b
  | _ => pure d

/-- An optional string field; a value that is not a string counts as absent. -/
def strFieldOpt (j : Json) (k : String) : Option String :=
  match opt j k with
  | some (.str s) => some s
  | _ => none

/-- An array field; a `null` is there, and not an array. -/
def arrField (j : Json) (k : String) : Reading (List Json) :=
  match j.get? k with
  | some (.arr a) => pure a
  | some _ => refuse s!"field '{k}' must be an array"
  | none => refuse s!"missing field '{k}'"

/-- An optional array field, empty when absent. -/
def arrFieldOr (j : Json) (k : String) : Reading (List Json) :=
  match opt j k with
  | some (.arr a) => pure a
  | some _ => refuse s!"field '{k}' must be an array"
  | none => pure []

def allocationBound : Nat := 2 ^ (24 : Nat)

def sizeGuard (k : String) (n : Nat) : Reading Nat :=
  if allocationBound < n then refuse s!"{k} above allocation guard" else pure n

def sizeField (j : Json) (k : String) : Reading Nat := do sizeGuard k (← natField j k)

def sizeFieldOr (j : Json) (k : String) (d : Nat) : Reading Nat := do sizeGuard k (← natFieldOr j k d)

/-- The value of a hex digit of either case. -/
def hexValue (c : Char) : Option Nat :=
  if '0' ≤ c ∧ c ≤ '9' then some (c.toNat - '0'.toNat)
  else if 'a' ≤ c ∧ c ≤ 'f' then some (c.toNat - 'a'.toNat + 10)
  else if 'A' ≤ c ∧ c ≤ 'F' then some (c.toNat - 'A'.toNat + 10)
  else none

/-- The byte a pair of characters spells: two hex digits, or a plus sign and one hex digit. -/
def hexPair (a b : Char) : Option Nat :=
  if a = '+' then hexValue b
  else match hexValue a, hexValue b with
    | some x, some y => some (16 * x + y)
    | _, _ => none

/-- The bytes spelled by pairs of characters. -/
def bytesOfHexChars : List Char → Reading Bytes
  | [] => pure []
  | a :: b :: rest => do
    match hexPair a b with
    | some x => return UInt8.ofNat x :: (← bytesOfHexChars rest)
    | none => refuse "bad hex digit"
  | [_] => refuse "odd hex length"

def bytesOfHex (s : String) : Reading Bytes :=
  if s.length % 2 == 1 then refuse "odd hex length" else bytesOfHexChars s.toList

def hexField (j : Json) (k : String) : Reading Bytes := do bytesOfHex (← strField j k)

/-- An optional hex field, empty when absent. -/
def hexFieldOr (j : Json) (k : String) : Reading Bytes :=
  match opt j k with
  | some v => do bytesOfHex (← asStr v)
  | none => pure []

def hexDigit (d : Nat) : Char :=
  if d < 10 then Char.ofNat ('0'.toNat + d) else Char.ofNat ('a'.toNat + d - 10)

def hexOf (bs : Bytes) : String :=
  String.ofList (bs.flatMap fun b => [hexDigit (b.toNat / 16), hexDigit (b.toNat % 16)])

def hexJson (bs : Bytes) : Json := .str (hexOf bs)

def okJson (j : Json) : Json := .obj [("ok", j)]

/-- Runs steps over a state in order, collecting their answers. -/
def runSteps {σ : Type} (step : σ → Json → Reading (Json × σ)) : σ → List Json → Reading (List Json × σ)
  | st, [] => pure ([], st)
  | st, s :: rest => do
    let (r, st) ← step st s
    let (rs, st) ← runSteps step st rest
    pure (r :: rs, st)

end Request

end EntitySync
