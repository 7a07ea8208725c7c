import EntitySync.Float.Binary64
/-!
# Shortest decimal text of a double

The decimal text of a finite double is the shortest digit string that reads back as the same
double, and of two such strings of that length the one nearer the double, a tie to the even last
digit. For one, two, … seventeen significant digits the two neighbours of the double on that
decimal grid are rounded back in exact arithmetic; the first grid with a neighbour that reads
back gives the digits. Seventeen digits always read back.

How the digits are laid out is a `DecimalLayout`: positional when the decimal point falls among
or just before the digits, otherwise one digit, the rest after a point, and a signed exponent.
Doubles in messages use `Binary64.messageLayout` (`0.001`, `1.25`, `1000000000000000.0`, `1e-7`,
`1.8446744073709552e+19`).
-/

namespace EntitySync

namespace Binary64

def digitsOf (n : Nat) : List Char := (toString n).toList

/-- The exponent `E` with `10 ^ E ≤ num / den < 10 ^ (E + 1)`, for positive `num` and `den`. -/
def floorLog10 (num den : Nat) : Int :=
  let e : Int := ((digitsOf num).length : Int) - (digitsOf den).length
  let atLeast := if 0 ≤ e then den * 10 ^ e.toNat ≤ num else den ≤ num * 10 ^ (-e).toNat
  if atLeast then e else e - 1

/-- The `n`-digit decimal `c · 10 ^ k` that reads back as the double `x = num / den` (with
`10 ^ E ≤ x < 10 ^ (E + 1)`), if there is one: of the two `n`-digit decimals around `x`, those
that round to `x`, and of two the nearer (a tie to the even one). -/
def digitsAt (x num den : Nat) (E : Int) (n : Nat) : Option (Nat × Int) :=
  let k : Int := E + 1 - n
  let (sn, sd) := if 0 ≤ k then (num, den * 10 ^ k.toNat) else (num * 10 ^ (-k).toNat, den)
  let lo := sn / sd
  let r := sn % sd
  let loOk := ofDecimal lo k == x
  let hiOk := ofDecimal (lo + 1) k == x
  if loOk && hiOk then
    if 2 * r < sd ∨ (2 * r = sd ∧ lo % 2 = 0) then some (lo, k) else some (lo + 1, k)
  else if loOk then some (lo, k)
  else if hiOk then some (lo + 1, k)
  else none

/-- The shortest decimal `c · 10 ^ k` that reads back as the positive finite double
`x = mant · 2 ^ exp`. -/
def shortest (x mant : Nat) (exp : Int) : Nat × Int :=
  let (num, den) := if 0 ≤ exp then (mant * 2 ^ exp.toNat, 1) else (mant, 2 ^ (-exp).toNat)
  let E := floorLog10 num den
  match (List.range 17).findSome? fun i => digitsAt x num den E (i + 1) with
  | some d => d
  | none => (num * 10 ^ (17 : Nat) / den, -17)

/-- The decimal `c · 10 ^ k` with the trailing zeros of `c` moved into `k`. -/
def trimZeros (c : Nat) (k : Int) : Nat → Nat × Int
  | 0 => (c, k)
  | fuel + 1 => if c ≠ 0 ∧ c % 10 = 0 then trimZeros (c / 10) (k + 1) fuel else (c, k)

end Binary64

/-- How the digits of a positive decimal are laid out. The place of the point is the number of
digits before it (negative when zeros stand between the point and the digits). -/
structure DecimalLayout where
  /-- The most digits before the point that are written positionally. -/
  maxWhole : Nat
  /-- The most zeros written positionally between the point and the first digit. -/
  maxZeros : Nat
  /-- What follows the digits of a whole number written positionally. -/
  wholeMark : String
  /-- What stands between the digits and the exponent. -/
  expMark : String
  /-- What stands before an exponent that is not negative. -/
  plusSign : String

namespace DecimalLayout

/-- The text of the decimal `c · 10 ^ k`, `c` positive and without trailing zeros. -/
def render (f : DecimalLayout) (c : Nat) (k : Int) : String :=
  let ds := Binary64.digitsOf c
  let len := ds.length
  let point : Int := len + k
  if 0 ≤ k ∧ point ≤ f.maxWhole then
    String.ofList ds ++ String.ofList (List.replicate k.toNat '0') ++ f.wholeMark
  else if 0 < point ∧ point ≤ f.maxWhole then
    String.ofList (ds.take point.toNat) ++ "." ++ String.ofList (ds.drop point.toNat)
  else if -(f.maxZeros : Int) ≤ point ∧ point ≤ 0 then
    "0." ++ String.ofList (List.replicate (-point).toNat '0') ++ String.ofList ds
  else
    let exponent := point - 1
    let expText := if 0 ≤ exponent then f.plusSign ++ toString exponent else toString exponent
    let mantissa := if len = 1 then String.ofList ds
      else String.ofList (ds.take 1) ++ "." ++ String.ofList (ds.drop 1)
    mantissa ++ f.expMark ++ expText

end DecimalLayout

namespace Binary64

/-- Doubles in messages are written positionally up to sixteen digits before the point and four
zeros after it, a whole number ending in `.0`; otherwise with `e` and the exponent, a `+` before
one that is not negative. -/
def messageLayout : DecimalLayout := ⟨16, 4, ".0", "e", "+"⟩

/-- The text of a double in a layout: `NaN`, `inf` and `-inf` for the values that are not
finite, `0.0` and `-0.0` for the zeros, and otherwise the shortest decimal that reads back. -/
def textIn (f : DecimalLayout) (x : Nat) : String :=
  match format.decode x with
  | .nan => "NaN"
  | .infinite neg => if neg then "-inf" else "inf"
  | .finite neg mant exp =>
    let sign := if neg then "-" else ""
    if mant = 0 then sign ++ "0.0"
    else
      let (c, k) := shortest (x % 2 ^ (63 : Nat)) mant exp
      let (c, k) := trimZeros c k 20
      sign ++ f.render c k

def text (x : Nat) : String := textIn messageLayout x

end Binary64

end EntitySync
