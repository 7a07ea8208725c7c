import EntitySync.Prelude
/-!
# Hexadecimal and padded numerals

Error texts show flags, magic numbers and schema fingerprints as `0x` and a fixed number of
upper-case hex digits; reports align numbers in columns. Both are here: `hexUpper w n` writes
`n` in at least `w` upper-case digits, and `padLeft`/`padRight` fill a text to a width.
-/

namespace EntitySync

def hexDigitUpper (d : Nat) : Char :=
  if d < 10 then Char.ofNat ('0'.toNat + d) else Char.ofNat ('A'.toNat + d - 10)

/-- The upper-case hex digits of `n`, most significant first, with no leading zeros. -/
def hexDigitsUpper (n : Nat) : List Char :=
  if n < 16 then [hexDigitUpper n] else hexDigitsUpper (n / 16) ++ [hexDigitUpper (n % 16)]
termination_by n
decreasing_by omega

/-- The number `n` in upper-case hex, left-padded with zeros to at least `w` digits. -/
def hexUpper (w n : Nat) : String :=
  let ds := hexDigitsUpper n
  String.ofList (List.replicate (w - ds.length) '0' ++ ds)

/-- The text `s` preceded by spaces up to `w` characters. -/
def padLeft (w : Nat) (s : String) : String :=
  String.ofList (List.replicate (w - s.length) ' ') ++ s

/-- The text `s` followed by spaces up to `w` characters. -/
def padRight (w : Nat) (s : String) : String :=
  s ++ String.ofList (List.replicate (w - s.length) ' ')

end EntitySync
