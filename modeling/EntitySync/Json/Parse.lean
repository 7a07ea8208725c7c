import EntitySync.Document.Reader
/-!
# Reading JSON

A JSON text read into a `Json` value with the document reader: any value is accepted, a number
is kept as an integer or as a double by the rules of the number reader, and an object keeps its
keys in the order first written, a repeated key taking the last value written for it. Arrays and objects
nest at most 127 deep. A failure is described as the reason, then the line and the column (in
bytes) at which it is reported.
-/

namespace EntitySync

namespace DocRead

/-- Sets the value of a key, in place if the key is there already. -/
def setField (fields : List (String × Json)) (key : String) (v : Json) : List (String × Json) :=
  if fields.any (·.1 == key) then fields.map fun (k, old) => if k == key then (k, v) else (k, old)
  else fields ++ [(key, v)]

/-- The next key of an object, taking the comma before it, or none at the object's end. -/
def nextKey (first : Bool) : DocRead (Option String) := do
  match ← ws with
  | some '}' => pure none
  | none => peekError "EOF while parsing an object"
  | some b =>
    let next ← if b == ',' && !first then do eat; ws
      else if first then pure (some b)
      else peekError "expected `,` or `\x7d`"
    match next with
    | some '"' => do eat; pure (some (← string))
    | some '}' => peekError "trailing comma"
    | some _ => peekError "key must be a string"
    | none => peekError "EOF while parsing a value"

mutual

/-- Any value; `fuel` bounds how deep reading goes. -/
def anyValue : Nat → DocRead Json
  | 0 => peekError "recursion limit exceeded"
  | fuel + 1 => do
    match ← ws with
    | none => peekError "EOF while parsing a value"
    | some 'n' => eat; ident ['u', 'l', 'l']; pure .null
    | some 't' => eat; ident ['r', 'u', 'e']; pure (.bool true)
    | some 'f' => eat; ident ['a', 'l', 's', 'e']; pure (.bool false)
    | some '-' => eat; pure (.num (← number false))
    | some '"' => eat; pure (.str (← string))
    | some '[' =>
      let items ← nested (arrayItems fuel true [])
      closing items (← attempt endSeq)
    | some '{' =>
      let fields ← nested (objectFields fuel true [])
      closing fields (← attempt endMap)
    | some c => if c.isDigit then pure (.num (← number true)) else peekError "expected value"

/-- The items of an array from the current one on, those before it in `acc` (reversed). -/
def arrayItems : Nat → Bool → List Json → DocRead Json
  | 0, _, acc => pure (.arr acc.reverse)
  | fuel + 1, first, acc => do
    if ← nextElement first then arrayItems fuel false ((← anyValue fuel) :: acc)
    else pure (.arr acc.reverse)

/-- The fields of an object from the current one on, those before it in `acc`. -/
def objectFields : Nat → Bool → List (String × Json) → DocRead Json
  | 0, _, acc => pure (.obj acc)
  | fuel + 1, first, acc => do
    match ← nextKey first with
    | none => pure (.obj acc)
    | some key =>
      colon
      let v ← anyValue fuel
      objectFields fuel false (setField acc key v)

end

end DocRead

/-- The JSON value a text holds, with nothing but whitespace after it, or what is wrong with
the text. -/
def Json.parse (text : String) : Except String Json :=
  readDocument (DocRead.anyValue (2 * text.length + 2)) text

end EntitySync
