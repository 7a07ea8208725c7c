import EntitySync.Json.Value
import EntitySync.Text.Hex
import EntitySync.Float.Shortest
/-!
# Writing JSON

Two layouts: `compact`, with no whitespace at all, and `pretty`, with each array item and object
field on its own line indented by two spaces per level, `": "` after a key, and empty arrays and
objects written `[]` and `{}`. Strings escape the quote, the backslash and every control
character: the usual ones by letter, the rest as `\u00xx`. A double is written as its shortest
decimal text, and `null` when it is infinite or NaN.
-/

namespace EntitySync

namespace Json

def hexLower (d : Nat) : Char :=
  if d < 10 then Char.ofNat ('0'.toNat + d) else Char.ofNat ('a'.toNat + d - 10)

def escapeChar (c : Char) : List Char :=
  if c = '"' then ['\\', '"']
  else if c = '\\' then ['\\', '\\']
  else if c = '\n' then ['\\', 'n']
  else if c = '\r' then ['\\', 'r']
  else if c = '\t' then ['\\', 't']
  else if c.toNat = 8 then ['\\', 'b']
  else if c.toNat = 12 then ['\\', 'f']
  else if c.toNat < 0x20 then ['\\', 'u', '0', '0', hexLower (c.toNat / 16), hexLower (c.toNat % 16)]
  else [c]

def quote (s : String) : String :=
  String.ofList ('"' :: s.toList.flatMap escapeChar ++ ['"'])

def numText : JsonNumber → String
  | .int i => toString i
  | .double bits =>
    match BinaryFormat.binary64.decode bits with
    | .finite _ _ _ => Binary64.text bits
    | _ => "null"

mutual

def compact : Json → String
  | null => "null"
  | bool b => if b then "true" else "false"
  | num n => numText n
  | str s => quote s
  | arr items => "[" ++ compactItems items ++ "]"
  | obj fields => "\x7b" ++ compactFields fields ++ "\x7d"

def compactItems : List Json → String
  | [] => ""
  | [j] => compact j
  | j :: rest => compact j ++ "," ++ compactItems rest

def compactFields : List (String × Json) → String
  | [] => ""
  | [(k, v)] => quote k ++ ":" ++ compact v
  | (k, v) :: rest => quote k ++ ":" ++ compact v ++ "," ++ compactFields rest

end

def indent (level : Nat) : String := String.ofList (List.replicate (2 * level) ' ')

mutual

/-- The value laid out over lines, at nesting level `level`. -/
def pretty (level : Nat) : Json → String
  | arr [] => "[]"
  | obj [] => "\x7b\x7d"
  | arr items => "[\n" ++ prettyItems (level + 1) items ++ "\n" ++ indent level ++ "]"
  | obj fields => "\x7b\n" ++ prettyFields (level + 1) fields ++ "\n" ++ indent level ++ "\x7d"
  | j => compact j

def prettyItems (level : Nat) : List Json → String
  | [] => ""
  | [j] => indent level ++ pretty level j
  | j :: rest => indent level ++ pretty level j ++ ",\n" ++ prettyItems level rest

def prettyFields (level : Nat) : List (String × Json) → String
  | [] => ""
  | [(k, v)] => indent level ++ quote k ++ ": " ++ pretty level v
  | (k, v) :: rest => indent level ++ quote k ++ ": " ++ pretty level v ++ ",\n" ++ prettyFields level rest

end

end Json

end EntitySync
