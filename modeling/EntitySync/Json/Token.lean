import EntitySync.Json.Value
import EntitySync.Float.Binary64
/-!
# Numbers and strings of JSON text

The two tokens of JSON text that take more than a character's look: numbers and strings. Each is
read from the front of the characters left, and gives the value, the characters after it and
the bytes it took, or a fault with the byte offset, from where the token starts, at which it is
reported. An offset is either where reading stands, for a character already taken, or just past
the next byte, for one only looked at.

A number keeps an integer exactly when it fits in 64 bits: nonnegative up to `2 ^ 64 - 1`,
negative down to `-2 ^ 63`. Any other number, and any number with a fraction or an exponent,
becomes a double computed in double arithmetic: the leading digits that fit in a 64-bit
significand are kept (later digits of the integer part only raise the exponent, later digits of
the fraction are dropped), the significand is rounded to a double and then multiplied or divided
by the double nearest to the power of ten. So the double is not always the one nearest to the
decimal, and a product past the largest double is a fault, "number out of range". A negative
zero is a double.

A string takes the escapes `\"`, `\\`, `\/`, `\b`, `\f`, `\n`, `\r`, `\t` and `\uXXXX`; a kept
string joins a surrogate pair and refuses a lone surrogate, while a skipped one takes any four
hex digits. A control character inside a string is a fault.
-/

namespace EntitySync

/-- The outcome of reading a token from the front of a text. -/
inductive Scan (α : Type) where
  /-- The value, the characters after it, and the bytes it took. -/
  | ok (value : α) (rest : List Char) (used : Nat)
  /-- A fault, and the byte offset from the token's start it is reported at. -/
  | fault (reason : String) (offset : Nat)

namespace Token

/-- A fault just past the next byte of `rest`, or where reading stands at the end. -/
def pastNext {α : Type} (reason : String) (rest : List Char) (used : Nat) : Scan α :=
  .fault reason (if rest.isEmpty then used else used + 1)

def digitValue (c : Char) : Nat := c.toNat - '0'.toNat

def digitCount : List Char → Nat
  | c :: cs => if c.isDigit then digitCount cs + 1 else 0
  | [] => 0

/-- The double `f · 10 ^ e` in double arithmetic: multiplied or divided by the double nearest to
the power of ten once the exponent is at most 308 in size; a larger negative exponent is first
brought up by dividing by `10 ^ 308`, and a zero stops that early. A product past the largest
double, or a larger positive exponent with a nonzero `f`, is out of range. Four steps suffice for
any `f` below `2 ^ 64`: three divisions by `10 ^ 308` take it to zero. -/
def scale : Nat → Nat → Int → Option Nat
  | 0, f, _ => some f
  | fuel + 1, f, e =>
    if e.natAbs ≤ 308 then
      if 0 ≤ e then
        let g := Binary64.mul f (Binary64.pow10 e.toNat)
        if Binary64.isInfinite g then none else some g
      else some (Binary64.div f (Binary64.pow10 e.natAbs))
    else if Binary64.isZero f then some f
    else if 0 ≤ e then none
    else scale fuel (Binary64.div f (Binary64.pow10 308)) (e + 308)

/-- The double of the significand `sig` and the decimal exponent `e`, with its sign; reading
took `used` characters, and `rest` is what follows. -/
def double (positive : Bool) (sig : Nat) (e : Int) (rest : List Char) (used : Nat) : Scan JsonNumber :=
  match scale 4 (Binary64.ofNat sig) e with
  | some f => .ok (.double (if positive then f else Binary64.negate f)) rest used
  | none => .fault "number out of range" used

/-- The digits of an exponent after its first, `acc` being their value so far: an exponent that
outgrows 32 bits makes a nonzero number with a positive exponent out of range, and any other
number a zero. -/
def expDigits (positive positiveExp : Bool) (sig : Nat) (start : Int) :
    List Char → Nat → Nat → Scan JsonNumber
  | c :: cs, acc, used =>
    if c.isDigit then
      let acc' := acc * 10 + digitValue c
      if 2 ^ (31 : Nat) ≤ acc' then
        if sig ≠ 0 ∧ positiveExp then .fault "number out of range" (used + 1)
        else
          let n := digitCount cs
          .ok (.double (if positive then 0 else Binary64.negZero)) (cs.drop n) (used + 1 + n)
      else expDigits positive positiveExp sig start cs acc' (used + 1)
    else double positive sig (if positiveExp then start + acc else start - acc) (c :: cs) used
  | [], acc, used => double positive sig (if positiveExp then start + acc else start - acc) [] used

/-- An exponent after its `e`: an optional sign, then at least one digit. -/
def exponent (positive : Bool) (sig : Nat) (start : Int) (cs : List Char) (used : Nat) :
    Scan JsonNumber :=
  let (positiveExp, cs, used) := match cs with
    | '+' :: r => (true, r, used + 1)
    | '-' :: r => (false, r, used + 1)
    | _ => (true, cs, used)
  match cs with
  | [] => .fault "EOF while parsing a value" used
  | c :: r =>
    if c.isDigit then expDigits positive positiveExp sig start r (digitValue c) (used + 1)
    else .fault "invalid number" (used + 1)

/-- What follows the digits of a number with a fraction or a long integer part: an exponent, or
the end of the number. -/
def afterDigits (positive : Bool) (sig : Nat) (e : Int) (cs : List Char) (used : Nat) :
    Scan JsonNumber :=
  match cs with
  | c :: r =>
    if c = 'e' ∨ c = 'E' then exponent positive sig e r (used + 1) else double positive sig e cs used
  | [] => double positive sig e [] used

/-- The digits after the point while the significand fits in 64 bits, `shift` counting them;
once it would not, the remaining digits are skipped. At least one digit must follow the point. -/
def fracDigits (positive : Bool) (start : Int) : List Char → Nat → Nat → Nat → Scan JsonNumber
  | c :: cs, sig, shift, used =>
    if c.isDigit then
      let sig' := sig * 10 + digitValue c
      if 2 ^ (64 : Nat) ≤ sig' then
        let n := digitCount (c :: cs)
        afterDigits positive sig (start - shift) ((c :: cs).drop n) (used + n)
      else fracDigits positive start cs sig' (shift + 1) (used + 1)
    else if shift = 0 then pastNext "invalid number" (c :: cs) used
    else afterDigits positive sig (start - shift) (c :: cs) used
  | [], sig, shift, used =>
    if shift = 0 then .fault "EOF while parsing a value" used
    else afterDigits positive sig (start - shift) [] used

/-- An integer part too long for 64 bits, after its significand: each further digit raises the
exponent by one. -/
def longInteger (positive : Bool) (sig : Nat) (cs : List Char) (used : Nat) : Scan JsonNumber :=
  let n := digitCount cs
  match cs.drop n with
  | '.' :: r => fracDigits positive n r sig 0 (used + n + 1)
  | rest => afterDigits positive sig n rest (used + n)

/-- A whole number that fits in 64 bits, with its sign: an integer, except a negative zero and
a negative number below `-2 ^ 63`, which are doubles. -/
def integer (positive : Bool) (sig : Nat) : JsonNumber :=
  if positive then .int sig
  else if sig = 0 then .double Binary64.negZero
  else if sig ≤ 2 ^ (63 : Nat) then .int (-(sig : Int))
  else .double (Binary64.negate (Binary64.ofNat sig))

/-- What follows the integer part of a number that fits in 64 bits: a fraction, an exponent, or
the end of the number. -/
def afterInteger (positive : Bool) (sig : Nat) (cs : List Char) (used : Nat) : Scan JsonNumber :=
  match cs with
  | '.' :: r => fracDigits positive 0 r sig 0 (used + 1)
  | c :: r =>
    if c = 'e' ∨ c = 'E' then exponent positive sig 0 r (used + 1)
    else .ok (integer positive sig) cs used
  | [] => .ok (integer positive sig) [] used

/-- The digits of the integer part after the first, while the significand fits in 64 bits. -/
def intDigits (positive : Bool) : List Char → Nat → Nat → Scan JsonNumber
  | c :: cs, sig, used =>
    if c.isDigit then
      let sig' := sig * 10 + digitValue c
      if 2 ^ (64 : Nat) ≤ sig' then longInteger positive sig (c :: cs) used
      else intDigits positive cs sig' (used + 1)
    else afterInteger positive sig (c :: cs) used
  | [], sig, used => afterInteger positive sig [] used

/-- A number after its sign (`positive` when there was no minus): a lone `0` or a digit run
not starting with `0`, then an optional fraction and exponent. -/
def number (positive : Bool) : List Char → Scan JsonNumber
  | [] => .fault "EOF while parsing a value" 0
  | '0' :: cs =>
    match cs with
    | c :: _ => if c.isDigit then .fault "invalid number" 2 else afterInteger positive 0 cs 1
    | [] => afterInteger positive 0 [] 1
  | c :: cs => if c.isDigit then intDigits positive cs (digitValue c) 1 else .fault "invalid number" 1

def hexDigit? (c : Char) : Option Nat :=
  if c.isDigit then some (c.toNat - '0'.toNat)
  else if 'a' ≤ c ∧ c ≤ 'f' then some (c.toNat - 'a'.toNat + 10)
  else if 'A' ≤ c ∧ c ≤ 'F' then some (c.toNat - 'A'.toNat + 10)
  else none

/-- The bytes of the characters at the front, counted up to `n` characters. -/
def bytesOf (cs : List Char) (n : Nat) : Nat := ((cs.take n).map Char.utf8Size).sum

/-- Four hex digits at the front of an escape that starts `used` bytes in: their value and the
characters after them. Fewer than four bytes left is a fault at the end of the text; four bytes
that are not hex digits, one past them. -/
def hex4 (cs : List Char) (used : Nat) : Scan Nat :=
  if bytesOf cs 4 < 4 then .fault "EOF while parsing a string" (used + bytesOf cs 4)
  else
    match (cs.take 4).foldlM (fun acc c => (hexDigit? c).map (16 * acc + ·)) 0 with
    | some n => .ok n (cs.drop 4) (used + 4)
    | none => .fault "invalid escape" (used + 4)

def codeChar (n : Nat) : Char := Char.ofNat n

/-- The body of a string after its opening quote, its characters so far in `acc` (reversed);
`keep` tells a kept string from a skipped one, and `fuel` bounds the characters read. -/
def stringBody (keep : Bool) : Nat → List Char → List Char → Nat → Scan String
  | 0, _, _, used => .fault "EOF while parsing a string" used
  | fuel + 1, cs, acc, used =>
    match cs with
    | [] => .fault "EOF while parsing a string" used
    | '"' :: r => .ok (String.ofList acc.reverse) r (used + 1)
    | '\\' :: r =>
      match r with
      | [] => .fault "EOF while parsing a string" (used + 1)
      | e :: r =>
        let simple := fun (c : Char) => stringBody keep fuel r (c :: acc) (used + 2)
        if e = '"' then simple '"'
        else if e = '\\' then simple '\\'
        else if e = '/' then simple '/'
        else if e = 'b' then simple (Char.ofNat 8)
        else if e = 'f' then simple (Char.ofNat 12)
        else if e = 'n' then simple '\n'
        else if e = 'r' then simple '\r'
        else if e = 't' then simple '\t'
        else if e = 'u' then
          match hex4 r (used + 2) with
          | .fault why off => .fault why off
          | .ok n r used =>
            if !keep then stringBody keep fuel r acc used
            else if 0xDC00 ≤ n ∧ n < 0xE000 then .fault "lone leading surrogate in hex escape" used
            else if n < 0xD800 then stringBody keep fuel r (codeChar n :: acc) used
            else if 0xE000 ≤ n then stringBody keep fuel r (codeChar n :: acc) used
            else
              match r with
              | [] => .fault "EOF while parsing a string" used
              | '\\' :: r =>
                match r with
                | [] => .fault "EOF while parsing a string" (used + 1)
                | 'u' :: r =>
                  match hex4 r (used + 2) with
                  | .fault why off => .fault why off
                  | .ok m r used =>
                    if m < 0xDC00 ∨ 0xE000 ≤ m then .fault "lone leading surrogate in hex escape" used
                    else
                      stringBody keep fuel r
                        (codeChar (0x10000 + (n - 0xD800) * 1024 + (m - 0xDC00)) :: acc) used
                | _ => .fault "unexpected end of hex escape" (used + 2)
              | _ => .fault "unexpected end of hex escape" (used + 1)
        else .fault "invalid escape" (used + 2)
    | c :: r =>
      if c.toNat < 0x20 then
        .fault "control character (\\u0000-\\u001F) found while parsing a string" (if keep then used + 1 else used)
      else stringBody keep fuel r (c :: acc) (used + c.utf8Size)

/-- A string after its opening quote; `keep` tells a kept string (checked for lone surrogates,
a control character reported past itself) from a skipped one. -/
def string (keep : Bool) (cs : List Char) : Scan String := stringBody keep (cs.length + 1) cs [] 0

end Token

/-- The line and column of a byte offset of a text: lines count from 1, and the column is the
number of bytes before the offset on its line. -/
def lineColumnOf (bytes : List UInt8) (offset : Nat) : Nat × Nat :=
  let before := bytes.take offset
  let lineStart := match (before.reverse.findIdx? (· == 10)) with
    | some back => before.length - back
    | none => 0
  (1 + (before.take lineStart).count 10, offset - lineStart)

end EntitySync
