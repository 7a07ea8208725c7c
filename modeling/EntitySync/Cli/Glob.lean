import EntitySync.Prelude
/-!
# Glob patterns

A pattern is a sequence of tokens: a literal character, `?` for any one character, `*` for any
sequence of characters (slashes included), `**` as a whole path component for nothing, for a
run of whole components up to a slash, or for all that is left, and `[…]` or `[!…]` for a
character within, or not within, a set of characters and ranges `a-z`. A `[` that does not start such a class, three stars in a row, and
`**` that is not a whole component are errors, each reported with the position where it was
found.
-/

namespace EntitySync

/-- A member of a character class: one character or a range. -/
inductive ClassItem where
  | single (c : Char)
  | range (lo hi : Char)
  deriving DecidableEq, Repr

def ClassItem.accepts (c : Char) : ClassItem → Bool
  | .single d => c == d
  | .range lo hi => lo ≤ c && c ≤ hi

/-- A token of a pattern. -/
inductive GlobToken where
  | char (c : Char)
  | anyChar
  | anySequence
  | anyComponents
  | within (items : List ClassItem)
  | except (items : List ClassItem)
  deriving DecidableEq, Repr

/-- A pattern error: the position and what is wrong. -/
structure GlobError where
  pos : Nat
  msg : String
  deriving DecidableEq, Repr

def GlobError.message (e : GlobError) : String :=
  let pos := e.pos
  let msg := e.msg
  s!"Pattern syntax error near position {pos}: {msg}"

/-- The members of a class, from its text between the brackets. -/
def classItems : List Char → List ClassItem
  | a :: '-' :: b :: rest => .range a b :: classItems rest
  | a :: rest => .single a :: classItems rest
  | [] => []

/-- The tokens of `cs`, the pattern's characters from position `i` on, after `acc`. -/
def globTokens (all : List Char) (acc : List GlobToken) (i : Nat) (cs : List Char) :
    Except GlobError (List GlobToken) :=
  match cs with
  | [] => .ok acc.reverse
  | '?' :: rest => globTokens all (.anyChar :: acc) (i + 1) rest
  | '*' :: rest =>
    let stars := 1 + (rest.takeWhile (· == '*')).length
    let after := rest.drop (stars - 1)
    let j := i + stars
    if 2 < stars then .error ⟨i + 2, "wildcards are either regular `*` or recursive `**`"⟩
    else if stars = 1 then globTokens all (.anySequence :: acc) j after
    else if i = 0 ∨ all[i - 1]? = some '/' then
      let acc' := if 1 < acc.length ∧ acc.head? = some .anyComponents then acc else .anyComponents :: acc
      match h : after with
      | '/' :: more =>
        have : more.length < rest.length + 1 := by
          have e := congrArg List.length h
          simp only [after, List.length_drop, List.length_cons] at e
          omega
        globTokens all acc' (j + 1) more
      | [] => .ok acc'.reverse
      | _ => .error ⟨j, "recursive wildcards must form a single path component"⟩
    else .error ⟨i - 1, "recursive wildcards must form a single path component"⟩
  | '[' :: rest =>
    let bad : Except GlobError (List GlobToken) := .error ⟨i, "invalid range pattern"⟩
    match rest with
    | '!' :: body =>
      if 2 ≤ body.length then
        match (body.drop 1).findIdx? (· == ']') with
        | some k => globTokens all (.except (classItems (body.take (k + 1))) :: acc) (i + k + 4) (body.drop (k + 2))
        | none => bad
      else bad
    | c :: body =>
      match body.findIdx? (· == ']') with
      | some k => globTokens all (.within (classItems (c :: body.take k)) :: acc) (i + k + 3) (body.drop (k + 1))
      | none => bad
    | [] => bad
  | c :: rest => globTokens all (.char c :: acc) (i + 1) rest
termination_by cs.length
decreasing_by all_goals simp only [List.length_drop, List.length_cons] at *; omega

def GlobPattern.compile (p : String) : Except GlobError (List GlobToken) :=
  globTokens p.toList [] 0 p.toList

/-- Every suffix of a list, longest first, the empty one included. -/
def suffixes {α : Type} : List α → List (List α)
  | [] => [[]]
  | a :: rest => (a :: rest) :: suffixes rest

/-- Whether a token sequence matches all of `cs`. -/
def globMatches : List GlobToken → List Char → Bool
  | [], cs => cs.isEmpty
  | .anySequence :: rest, cs => (suffixes cs).any (globMatches rest)
  | .anyComponents :: rest, cs =>
    globMatches rest cs || globMatches rest [] ||
      ((suffixes cs).zip ((suffixes cs).drop 1)).any fun (here, after) =>
        here.head? == some '/' && globMatches rest after
  | t :: rest, c :: cs =>
    let ok := match t with
      | .char d => c == d
      | .anyChar => true
      | .within items => items.any (·.accepts c)
      | .except items => !items.any (·.accepts c)
      | _ => false
    ok && globMatches rest cs
  | _ :: _, [] => false

end EntitySync
