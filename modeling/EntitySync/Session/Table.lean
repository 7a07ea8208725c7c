import EntitySync.Prelude
/-!
# Index tables

A table of values keyed by index, kept in ascending order of index with at most one entry per
index. Setting an index replaces its value in place. Config strings live in such tables on
both ends of a session and during playback.

The order is a field of the table: `set` and `map` prove it where they build a table, so no
theorem about a table assumes it.
-/

namespace EntitySync

/-- Values keyed by index, listed in strictly ascending order of index. -/
structure IndexTable (α : Type) where
  entries : List (Nat × α)
  ascending : (entries.map Prod.fst).Pairwise (· < ·)

namespace IndexTable

variable {α β : Type}

def empty : IndexTable α := ⟨[], List.Pairwise.nil⟩

/-- Puts `v` at `index` in a list ascending by index, replacing the value there. -/
def insertAt (index : Nat) (v : α) : List (Nat × α) → List (Nat × α)
  | [] => [(index, v)]
  | (j, w) :: rest =>
    if index < j then (index, v) :: (j, w) :: rest
    else if index = j then (index, v) :: rest
    else (j, w) :: insertAt index v rest

theorem mem_map_fst_insertAt {index j : Nat} {v : α} {l : List (Nat × α)}
    (h : j ∈ (insertAt index v l).map Prod.fst) : j ∈ l.map Prod.fst ∨ j = index := by
  induction l with
  | nil => simpa [insertAt] using h
  | cons p rest ih =>
    obtain ⟨k, w⟩ := p
    simp only [insertAt] at h
    simp only [List.map_cons, List.mem_cons]
    -- before, at or after the head: only the last case recurses
    split at h
    · rcases List.mem_cons.mp h with rfl | h
      · exact .inr rfl
      · exact .inl (List.mem_cons.mp h)
    split at h
    · rcases List.mem_cons.mp h with rfl | h
      · exact .inr rfl
      · exact .inl (.inr h)
    · rcases List.mem_cons.mp h with rfl | h
      · exact .inl (.inl rfl)
      · exact (ih h).imp_left .inr

theorem ascending_insertAt {index : Nat} {v : α} {l : List (Nat × α)}
    (hl : (l.map Prod.fst).Pairwise (· < ·)) :
    ((insertAt index v l).map Prod.fst).Pairwise (· < ·) := by
  induction l with
  | nil => simp [insertAt]
  | cons p rest ih =>
    obtain ⟨k, u⟩ := p
    simp only [List.map_cons, List.pairwise_cons] at hl
    simp only [insertAt]
    split
    · next hlt =>
      simp only [List.map_cons, List.pairwise_cons]
      exact ⟨fun x hx => by
        rcases List.mem_cons.mp hx with rfl | hx
        · exact hlt
        · exact Nat.lt_trans hlt (hl.1 x hx), hl.1, hl.2⟩
    split
    · next heq =>
      subst heq
      simpa using hl
    · simp only [List.map_cons, List.pairwise_cons]
      refine ⟨fun x hx => ?_, ih hl.2⟩
      rcases mem_map_fst_insertAt hx with hx | rfl
      · exact hl.1 x hx
      · omega

/-- Sets the value at `index`, replacing the one there. -/
def set (t : IndexTable α) (index : Nat) (v : α) : IndexTable α :=
  ⟨insertAt index v t.entries, ascending_insertAt t.ascending⟩

def get? (t : IndexTable α) (index : Nat) : Option α :=
  (t.entries.find? (·.1 == index)).map Prod.snd

def setAll (t : IndexTable α) (entries : List (Nat × α)) : IndexTable α :=
  entries.foldl (fun t (i, v) => t.set i v) t

/-- Changes every value in place, keeping the indices. -/
def map (f : α → β) (t : IndexTable α) : IndexTable β :=
  ⟨t.entries.map fun (i, v) => (i, f v), by simpa [List.map_map, Function.comp_def] using t.ascending⟩

end IndexTable

end EntitySync
