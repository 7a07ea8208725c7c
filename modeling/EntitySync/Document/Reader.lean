import EntitySync.Json.Token
import EntitySync.Float.Shortest
import EntitySync.Text.Quote
/-!
# Reading typed values from JSON text

A document is read in one pass from the front into the value a type expects, and the first
fault stops it. A fault is reported at a byte offset: for malformed text, just past the
character looked at (or where reading stands, for a character already taken); for a value of
the wrong type or range, just past the value; for a fault found only once an object or array
is done (a missing or repeated key), where the reading of that object or array ended.

Values nobody asked for (the values of unknown keys) are skipped with the same syntax checks,
except that a skipped string is not checked for lone surrogates and a skipped number may be out
of range. Arrays and objects that are read nest at most 127 deep: opening one more is a fault at
its bracket. Skipped values may nest deeper.
-/

namespace EntitySync

/-- The state of reading a document: the characters left, the bytes read, the bytes in all, and
how many more levels of arrays and objects may open. -/
structure DocInput where
  rest : List Char
  index : Nat
  total : Nat
  depth : Nat

/-- A fault, with the byte offset it is reported at once that is known. -/
structure DocError where
  reason : String
  offset : Option Nat

/-- A reading step; a fault keeps the input where the fault left it. -/
abbrev DocRead (α : Type) := ExceptT DocError (StateM DocInput) α

namespace DocRead

def peek : DocRead (Option Char) := return (← get).rest.head?

def eat : DocRead Unit := modify fun s =>
  match s.rest with
  | c :: r => { s with rest := r, index := s.index + c.utf8Size }
  | [] => s

/-- The characters after the leading whitespace of `cs`, and `index` moved past it. -/
def skipBlank : List Char → Nat → List Char × Nat
  | c :: r, index =>
    if c = ' ' ∨ c = '\n' ∨ c = '\t' ∨ c = '\r' then skipBlank r (index + 1) else (c :: r, index)
  | [], index => ([], index)

def ws : DocRead (Option Char) := do
  modify fun s => let (rest, index) := skipBlank s.rest s.index; { s with rest, index }
  peek

def failAt {α : Type} (reason : String) (offset : Nat) : DocRead α := throw ⟨reason, some offset⟩

def errorHere {α : Type} (reason : String) : DocRead α := do failAt reason (← get).index

def peekError {α : Type} (reason : String) : DocRead α := do
  let s ← get
  failAt reason (min s.total (s.index + 1))

def custom {α : Type} (reason : String) : DocRead α := throw ⟨reason, none⟩

/-- Gives a fault without a position the position where reading stands. -/
def fixPosition {α : Type} (x : DocRead α) : DocRead α :=
  tryCatch x fun e => match e.offset with
    | some _ => throw e
    | none => do throw { e with offset := some (← get).index }

def outcome {α : Type} : Except DocError α → DocRead α
  | .ok v => pure v
  | .error e => throw e

/-- Runs a step and returns its outcome, keeping the input it left. -/
def attempt {α : Type} (x : DocRead α) : DocRead (Except DocError α) :=
  tryCatch (do return .ok (← x)) fun e => pure (.error e)

/-- Reads a token with `scan` from where reading stands. -/
def token {α : Type} (scan : List Char → Scan α) : DocRead α := do
  let s ← get
  match scan s.rest with
  | .ok v rest used =>
    set { s with rest, index := s.index + used }
    pure v
  | .fault reason offset => failAt reason (s.index + offset)

/-- A string kept as a value or key, after its opening quote. -/
def string : DocRead String := token (Token.string true)

def skipString : DocRead Unit := do
  let _ ← token (Token.string false)

/-- A number after its sign, `positive` when there was no minus. -/
def number (positive : Bool) : DocRead JsonNumber := token (Token.number positive)

/-- The rest of a literal word; a wrong character is reported one byte past its start. -/
def ident (word : List Char) : DocRead Unit := do
  for w in word do
    match ← peek with
    | none => errorHere "EOF while parsing a value"
    | some c =>
      if c != w then failAt "expected ident" ((← get).index + 1)
      eat

/-- How a number of the wrong type is named in a fault. -/
def describeNumber : JsonNumber → String
  | .int i => s!"integer `{i}`"
  | .double bits =>
    let text := Binary64.text bits
    s!"floating point `{text}`"

/-- The fault for a value of the wrong type where a value described by `expected` belongs; the
value is read first. -/
def invalidType {α : Type} (expected : String) : DocRead α := fixPosition do
  let found ← match ← peek with
    | some 'n' => do eat; ident ['u', 'l', 'l']; pure "null"
    | some 't' => do eat; ident ['r', 'u', 'e']; pure "boolean `true`"
    | some 'f' => do eat; ident ['a', 'l', 's', 'e']; pure "boolean `false`"
    | some '-' => do eat; pure (describeNumber (← number false))
    | some '"' => do eat; pure ("string " ++ quoteForMessage (← string))
    | some '[' => pure "sequence"
    | some '{' => pure "map"
    | some c => if c.isDigit then do pure (describeNumber (← number true)) else peekError "expected value"
    | none => peekError "expected value"
  custom s!"invalid type: {found}, expected {expected}"

def stringValue : DocRead String := fixPosition do
  match ← ws with
  | none => peekError "EOF while parsing a value"
  | some '"' => do eat; string
  | some _ => invalidType "a string"

/-- A natural number below `bound`, named `ty` in faults. -/
def natValue (ty : String) (bound : Nat) : DocRead Nat := fixPosition do
  let n ← match ← ws with
    | none => peekError "EOF while parsing a value"
    | some '-' => do eat; number false
    | some c => if c.isDigit then number true else invalidType ty
  match n with
  | .int i =>
    if 0 ≤ i ∧ i < bound then pure i.toNat else custom s!"invalid value: integer `{i}`, expected {ty}"
  | .double _ =>
    let found := describeNumber n
    custom s!"invalid type: {found}, expected {ty}"

/-- The colon between a key and its value. -/
def colon : DocRead Unit := do
  match ← ws with
  | some ':' => eat
  | some _ => peekError "expected `:`"
  | none => peekError "EOF while parsing an object"

def endMap : DocRead Unit := do
  match ← ws with
  | some '}' => eat
  | some ',' => peekError "trailing comma"
  | some _ => peekError "trailing characters"
  | none => peekError "EOF while parsing an object"

def endSeq : DocRead Unit := do
  match ← ws with
  | some ']' => eat
  | some ',' => do
    eat
    match ← ws with
    | some ']' => peekError "trailing comma"
    | _ => peekError "trailing characters"
  | some _ => peekError "trailing characters"
  | none => peekError "EOF while parsing a list"

/-- Skips the digits at the front; whether there were any. -/
def skipDigits : DocRead Bool := do
  let s ← get
  let n := Token.digitCount s.rest
  set { s with rest := s.rest.drop n, index := s.index + n }
  pure (n ≠ 0)

/-- Takes the next character, which must be a digit; any other is reported one byte past its
start, and the end where reading stands. -/
def takeDigit : DocRead Unit := do
  match ← peek with
  | some c => if c.isDigit then eat else failAt "invalid number" ((← get).index + 1)
  | none => errorHere "invalid number"

/-- Skips a number, its sign already read; its size is not checked. -/
def skipNumber : DocRead Unit := do
  match ← peek with
  | some '0' =>
    eat
    match ← peek with
    | some c => if c.isDigit then peekError "invalid number"
    | none => pure ()
  | _ =>
    takeDigit
    let _ ← skipDigits
  if (← peek) == some '.' then
    eat
    if !(← skipDigits) then peekError "invalid number"
  let e ← peek
  if e == some 'e' || e == some 'E' then
    eat
    let sign ← peek
    if sign == some '+' || sign == some '-' then eat
    takeDigit
    let _ ← skipDigits

/-- Skips one value of any type; `fuel` bounds its nesting. -/
def skipValue (fuel : Nat) : DocRead Unit := do
  match fuel with
  | 0 => errorHere "recursion limit exceeded"
  | fuel + 1 =>
    match ← ws with
    | none => peekError "EOF while parsing a value"
    | some 'n' => eat; ident ['u', 'l', 'l']
    | some 't' => eat; ident ['r', 'u', 'e']
    | some 'f' => eat; ident ['a', 'l', 's', 'e']
    | some '-' => eat; skipNumber
    | some '"' => eat; skipString
    | some '[' =>
      eat
      match ← ws with
      | none => peekError "EOF while parsing a list"
      | some ']' => eat
      | some _ =>
        skipValue fuel
        for _ in List.range ((← get).rest.length + 1) do
          match ← ws with
          | some ',' => eat; skipValue fuel
          | some ']' => eat; return
          | some _ => peekError "expected `,` or `]`"
          | none => peekError "EOF while parsing a list"
    | some '{' =>
      eat
      match ← ws with
      | none => peekError "EOF while parsing an object"
      | some '}' => eat
      | some _ =>
        skipKey
        skipValue fuel
        for _ in List.range ((← get).rest.length + 1) do
          match ← ws with
          | some ',' => eat; skipKey; skipValue fuel
          | some '}' => eat; return
          | some _ => peekError "expected `,` or `\x7d`"
          | none => peekError "EOF while parsing an object"
    | some c => if c.isDigit then skipNumber else peekError "expected value"
where
  /-- Skips a key and its colon. -/
  skipKey : DocRead Unit := do
    match ← ws with
    | some '"' => eat; skipString
    | some _ => peekError "key must be a string"
    | none => peekError "EOF while parsing an object"
    colon

/-- Runs `x` one level of nesting deeper, after taking the bracket that opens the level; past
the deepest level allowed, a fault at the bracket. -/
def nested {α : Type} (x : DocRead α) : DocRead (Except DocError α) := do
  let s ← get
  if s.depth ≤ 1 then peekError "recursion limit exceeded"
  set { s with depth := s.depth - 1 }
  eat
  let r ← attempt x
  modify fun s => { s with depth := s.depth + 1 }
  pure r

/-- Says whether another element of an array follows, taking the comma before it. -/
def nextElement (first : Bool) : DocRead Bool := do
  match ← ws with
  | some ']' => pure false
  | none => peekError "EOF while parsing a list"
  | some b =>
    let next ← if b == ',' && !first then do eat; ws
      else if first then pure (some b)
      else peekError "expected `,` or `]`"
    match next with
    | some ']' => peekError "trailing comma"
    | some _ => pure true
    | none => peekError "EOF while parsing a value"

/-- The outcome of a container's contents and of its closing: the first fault of the two. -/
def closing {α : Type} : Except DocError α → Except DocError Unit → DocRead α
  | .ok v, .ok () => pure v
  | .error e, _ => throw e
  | .ok _, .error e => throw e

/-- An array of values read by `element`, with a type named `expected` in faults. -/
def seqValue {α : Type} (expected : String) (element : DocRead α) : DocRead (List α) :=
  fixPosition do
    match ← ws with
    | none => peekError "EOF while parsing a value"
    | some '[' =>
      let items ← nested (loop ((← get).rest.length + 1) true [])
      closing items (← attempt endSeq)
    | some _ => invalidType expected
where
  /-- The elements from the current one on. -/
  loop : Nat → Bool → List α → DocRead (List α)
    | 0, _, acc => pure acc.reverse
    | fuel + 1, first, acc => do
      if ← nextElement first then loop fuel false ((← element) :: acc) else pure acc.reverse

/-- The entries of an object whose keys name the given fields, each read by `field` at its
position; other keys are skipped, and a repeated field is a fault. The values come with their
positions, in the order read. -/
def mapEntries {β : Type} (fields : List String) (field : Nat → DocRead β) :
    Nat → Bool → List (Nat × β) → DocRead (List (Nat × β))
  | 0, _, acc => pure acc.reverse
  | fuel + 1, first, acc => do
    match ← ws with
    | some '}' => pure acc.reverse
    | none => peekError "EOF while parsing an object"
    | some b =>
      let next ← if b == ',' && !first then do eat; ws
        else if first then pure (some b)
        else peekError "expected `,` or `\x7d`"
      match next with
      | some '"' =>
        eat
        let key ← string
        match fields.idxOf? key with
        | some i =>
          if acc.any (·.1 == i) then custom s!"duplicate field `{key}`"
          colon
          let v ← field i
          mapEntries fields field fuel false ((i, v) :: acc)
        | none =>
          colon
          skipValue ((← get).rest.length + 1)
          mapEntries fields field fuel false acc
      | some '}' => peekError "trailing comma"
      | some _ => peekError "key must be a string"
      | none => peekError "EOF while parsing a value"

/-- The value read for field `i`, or the fault for a missing field. -/
def required {β : Type} (fields : List String) (entries : List (Nat × β)) (i : Nat) : DocRead β :=
  match entries.find? (·.1 == i) with
  | some (_, v) => pure v
  | none =>
    let name := fields.getD i ""
    custom s!"missing field `{name}`"

/-- The fault for an array too short to fill a structure. -/
def tooShort {α : Type} (count : Nat) (expected : String) : DocRead α :=
  custom s!"invalid length {count}, expected {expected}"

/-- A structure, written as an object (read by `fromMap`) or as an array of its fields in order
(read by `fromSeq`); `expected` names it in faults. -/
def structValue {α : Type} (expected : String) (fromSeq fromMap : DocRead α) : DocRead α :=
  fixPosition do
    match ← ws with
    | none => peekError "EOF while parsing a value"
    | some '[' =>
      let v ← nested fromSeq
      closing v (← attempt endSeq)
    | some '{' =>
      let v ← nested fromMap
      closing v (← attempt endMap)
    | some _ => invalidType expected

/-- How a list of variant names is offered in a fault. -/
def oneOf (names : List String) : String :=
  match names with
  | [] => "there are no variants"
  | [a] => "`" ++ a ++ "`"
  | [a, b] => "`" ++ a ++ "` or `" ++ b ++ "`"
  | _ => "one of " ++ ", ".intercalate (names.map fun n => "`" ++ n ++ "`")

/-- The position of a variant, read from its name. -/
def variantName (names : List String) : DocRead Nat := fixPosition do
  match ← ws with
  | none => peekError "EOF while parsing a value"
  | some '"' =>
    eat
    let name ← string
    match names.idxOf? name with
    | some i => pure i
    | none =>
      let offered := oneOf names
      custom s!"unknown variant `{name}`, expected {offered}"
  | some _ => invalidType "variant identifier"

/-- The content of a variant without parameters: `null`. -/
def unitValue : DocRead Unit := fixPosition do
  match ← ws with
  | none => peekError "EOF while parsing a value"
  | some 'n' => eat; ident ['u', 'l', 'l']
  | some _ => invalidType "unit"

/-- A value of an enumeration: a variant's name alone, taken by `bare`, or an object with one
key, the variant's name, whose value `content` reads. -/
def enumValue {α : Type} (names : List String) (bare content : Nat → DocRead α) : DocRead α := do
  match ← ws with
  | some '{' =>
    let v ← outcome (← nested do
      let i ← variantName names
      colon
      content i)
    match ← ws with
    | some '}' => eat; pure v
    | some _ => errorHere "expected value"
    | none => errorHere "EOF while parsing an object"
  | some '"' => bare (← variantName names)
  | some _ => peekError "expected value"
  | none => peekError "EOF while parsing a value"

end DocRead

/-- The text of a fault, with the place it is reported at. -/
def DocError.describe (e : DocError) (text : String) : String :=
  match e.offset with
  | none => e.reason
  | some offset =>
    let (line, column) := lineColumnOf text.toUTF8.toList offset
    let reason := e.reason
    s!"{reason} at line {line} column {column}"

/-- Reads a whole document with `reader`; only whitespace may follow the value. -/
def readDocument {α : Type} (reader : DocRead α) (text : String) : Except String α :=
  let whole : DocRead α := do
    let v ← reader
    match ← DocRead.ws with
    | some _ => DocRead.peekError "trailing characters"
    | none => pure v
  match (whole.run.run ⟨text.toList, 0, text.utf8ByteSize, 128⟩).1 with
  | .ok v => .ok v
  | .error e => .error (e.describe text)

end EntitySync
