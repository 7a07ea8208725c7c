import EntitySync.Prelude
/-!
# JSON values

The library reads schemas from JSON documents and writes reports as JSON. A JSON value is null,
a boolean, a number, a string, an array or an object whose fields keep their order. A number is
an integer, kept exactly, or a double, kept as its bit pattern: reading a text keeps the
integers that fit in 64 bits and makes every other number a double.
-/

namespace EntitySync

/-- A JSON number: an integer, or a double by its bit pattern. -/
inductive JsonNumber where
  | int (i : Int)
  | double (bits : Nat)
  deriving Inhabited, DecidableEq

/-- A JSON value. -/
inductive Json where
  | null
  | bool (b : Bool)
  | num (n : JsonNumber)
  | str (s : String)
  | arr (items : List Json)
  | obj (fields : List (String × Json))
  deriving Inhabited

namespace Json

def nat (n : Nat) : Json := num (.int n)

def int (n : Int) : Json := num (.int n)

/-- The value of a field of an object. -/
def get? (j : Json) (key : String) : Option Json :=
  match j with
  | obj fields => (fields.find? (·.1 == key)).map Prod.snd
  | _ => none

/-- The integer a number stands for, if it is kept as one. A number written with a fraction or an
exponent, such as `5.0` or `1e3`, is a double and no integer. -/
def int? : Json → Option Int
  | num (.int i) => some i
  | _ => none

/-- The natural number a number stands for, if it is one. -/
def nat? (j : Json) : Option Nat :=
  match j.int? with
  | some i => if 0 ≤ i then some i.toNat else none
  | none => none

def str? : Json → Option String
  | str s => some s
  | _ => none

def bool? : Json → Option Bool
  | bool b => some b
  | _ => none

def arr? : Json → Option (List Json)
  | arr items => some items
  | _ => none

/-- Adds fields to an object, after its own. -/
def extend (j : Json) (more : List (String × Json)) : Json :=
  match j with
  | obj fields => obj (fields ++ more)
  | other => other

def opt {α : Type} (f : α → Json) : Option α → Json
  | some a => f a
  | none => null

end Json

end EntitySync
