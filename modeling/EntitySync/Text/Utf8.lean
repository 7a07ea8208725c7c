import EntitySync.Stream.Word
/-!
# UTF-8

Text on the wire is UTF-8. `encodeUtf8` writes a string's code points in one to four bytes each;
`decodeUtf8` accepts exactly the well-formed byte strings: no stray continuation byte, no
overlong form, no surrogate and nothing above U+10FFFF.
-/

namespace EntitySync

def isContinuation (b : UInt8) : Bool := b.toNat / 64 == 2

/-- The UTF-8 bytes of one code point. -/
def encodeChar (c : Char) : Bytes :=
  let n := c.toNat
  if n < 0x80 then [UInt8.ofNat n]
  else if n < 0x800 then [UInt8.ofNat (0xC0 + n / 64), UInt8.ofNat (0x80 + n % 64)]
  else if n < 0x10000 then
    [UInt8.ofNat (0xE0 + n / 4096), UInt8.ofNat (0x80 + n / 64 % 64), UInt8.ofNat (0x80 + n % 64)]
  else
    [UInt8.ofNat (0xF0 + n / 262144), UInt8.ofNat (0x80 + n / 4096 % 64),
      UInt8.ofNat (0x80 + n / 64 % 64), UInt8.ofNat (0x80 + n % 64)]

def encodeUtf8 (s : String) : Bytes := s.toList.flatMap encodeChar

/-- The code point `n` as a character when it is a scalar value at least `least`: the lower
bound rules out overlong forms. -/
def scalarAtLeast (least n : Nat) : Option Char :=
  if least ≤ n ∧ n < 0x110000 ∧ ¬(0xD800 ≤ n ∧ n < 0xE000) then some (Char.ofNat n) else none

/-- The characters of a well-formed UTF-8 byte string, or `none`. -/
def decodeUtf8 : Bytes → Option (List Char)
  | [] => some []
  | b0 :: rest =>
    let lead := b0.toNat
    if lead < 0x80 then (decodeUtf8 rest).map (Char.ofNat lead :: ·)
    else match rest with
      | [] => none
      | b1 :: rest1 =>
        if !isContinuation b1 then none
        else if lead / 32 = 6 then
          match scalarAtLeast 0x80 ((lead % 32) * 64 + b1.toNat % 64) with
          | some c => (decodeUtf8 rest1).map (c :: ·)
          | none => none
        else match rest1 with
          | [] => none
          | b2 :: rest2 =>
            if !isContinuation b2 then none
            else if lead / 16 = 14 then
              match scalarAtLeast 0x800
                  ((lead % 16) * 4096 + (b1.toNat % 64) * 64 + b2.toNat % 64) with
              | some c => (decodeUtf8 rest2).map (c :: ·)
              | none => none
            else match rest2 with
              | [] => none
              | b3 :: rest3 =>
                if !isContinuation b3 then none
                else if lead / 8 = 30 then
                  match scalarAtLeast 0x10000 ((lead % 8) * 262144 + (b1.toNat % 64) * 4096
                      + (b2.toNat % 64) * 64 + b3.toNat % 64) with
                  | some c => (decodeUtf8 rest3).map (c :: ·)
                  | none => none
                else none

def stringOfUtf8 (bs : Bytes) : Option String := (decodeUtf8 bs).map String.ofList

end EntitySync
