import EntitySync.Float.Binary64
/-!
# Similar names

When a command line names something that does not exist, names that are close to it are offered
instead. Closeness is the Jaro similarity: for strings `a` and `b`, the characters of `a` that
equal a not yet matched character of `b` at most `max |a| |b| / 2 - 1` places away (the first
such one) are matched; with `m` matches, of which `t` pairs stand in a different order, the
similarity is `(m / |a| + m / |b| + (m - t / 2) / m) / 3`, and `0` when nothing matches. A name
is offered when its similarity exceeds `0.7`.

The similarity is computed in double precision, each quotient and each sum rounded, because the
threshold is met or missed by that rounding: matching three characters of `xxema` in `schema`
gives exactly `0.7` in fractions, and `0.7000000000000001` in doubles, and the name is offered.
-/

namespace EntitySync

/-- A similarity: the bit pattern of a double between `0` and `1`. For such doubles the order of
the patterns is the order of the numbers. -/
structure Similarity where
  bits : Nat

namespace Similarity

def le (x y : Similarity) : Bool := x.bits ≤ y.bits

def close (x : Similarity) : Bool := Binary64.ofDecimal 7 (-1) < x.bits

def ratio (a b : Nat) : Nat := Binary64.div (Binary64.ofNat a) (Binary64.ofNat b)

end Similarity

/-- Matches the characters of `a`, from position `i` on, against the unmatched positions of
`b` within `range`; returns the matched characters of `a` in order and the flags of `b`. -/
def jaroMatch (b : List Char) (range : Nat) : List Char → Nat → List Bool → List Char × List Bool
  | [], _, flags => ([], flags)
  | c :: rest, i, flags =>
    let lo := i - range
    let hi := min b.length (i + range + 1)
    let hit := (List.range hi).find? fun j => lo ≤ j && b[j]? == some c && !(flags.getD j true)
    match hit with
    | some j =>
      let (ms, flags) := jaroMatch b range rest (i + 1) (flags.set j true)
      (c :: ms, flags)
    | none => jaroMatch b range rest (i + 1) flags

def jaro (a b : String) : Similarity :=
  let as := a.toList
  let bs := b.toList
  let la := as.length
  let lb := bs.length
  if la = 0 ∧ lb = 0 then ⟨Binary64.ofNat 1⟩
  else if la = 0 ∨ lb = 0 then ⟨0⟩
  else
    let range := max la lb / 2 - 1
    let (fromA, flags) := jaroMatch bs range as 0 (List.replicate lb false)
    let fromB := (bs.zip flags).filterMap fun (c, f) => if f then some c else none
    let m := fromA.length
    let t := ((fromA.zip fromB).filter fun (x, y) => x != y).length / 2
    if m = 0 then ⟨0⟩
    else
      let sum := Binary64.add (Binary64.add (Similarity.ratio m la) (Similarity.ratio m lb))
        (Similarity.ratio (m - t) m)
      ⟨Binary64.div sum (Binary64.ofNat 3)⟩

/-- The names close to `v`, the closest last; names equally close keep their order. -/
def similarNames (v : String) (names : List String) : List String :=
  let scored := (names.map fun n => (jaro v n, n)).filter fun (s, _) => s.close
  (scored.mergeSort fun x y => x.1.le y.1).map Prod.snd

end EntitySync
