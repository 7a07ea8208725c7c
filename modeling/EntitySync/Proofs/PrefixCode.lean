import EntitySync.Proofs.ConfigTable
/-!
# Reads that take a prefix code

A read takes bytes from the front of what a cursor has left. It reads a *prefix code*
(`PrefixCode`) when what it does on success depends only on the bytes it took, and when, cut
short inside those bytes, it fails rather than reading something else. No byte string it takes
is then a proper prefix of another: on a proper prefix of the bytes it took it fails
(`PrefixCode.fails_of_prefix`), and with more bytes after them it takes the same bytes again and
leaves the rest (`PrefixCode.frame_append`).

Each byte-level read of the wire has a grammar for the bytes it takes: a fixed-width word takes
its width, a varint runs to its first byte with a clear top bit, and a string to its NUL
terminator. A read that follows a grammar in which no word is a proper prefix of another reads a
prefix code (`PrefixCode.of_grammar`), and so does a read built from such reads by sequencing
and by checks on what was read (`PrefixCode.bind`).
-/

namespace EntitySync

/-- Two splits of one list, the second tail no shorter than the first: the second head is a
head of the first. -/
theorem exists_append_of_length_le {α : Type} {u t q r : List α} (h : u ++ t = q ++ r)
    (hle : t.length ≤ r.length) : ∃ w, u = q ++ w ∧ r = w ++ t := by
  rcases List.append_eq_append_iff.mp h with ⟨a', rfl, rfl⟩ | ⟨c', rfl, rfl⟩
  · -- here `t = a' ++ r` is no longer than `r`, so `a'` is empty
    have hlen : a'.length = 0 := by
      simp only [List.length_append] at hle
      omega
    obtain rfl := List.eq_nil_of_length_eq_zero hlen
    exact ⟨[], by simp, by simp⟩
  · exact ⟨c', rfl, rfl⟩

/-- A read from a cursor that takes a prefix code. -/
structure PrefixCode {ε α : Type} (read : Cursor → Except ε (α × Cursor)) : Prop where
  /-- A read that succeeds took bytes from the front. -/
  advance : ∀ {c : Cursor} {a : α} {c' : Cursor}, read c = .ok (a, c') → ∃ q, c.rest = q ++ c'.rest
  /-- What a read that succeeds does depends only on the bytes it took. -/
  frame : ∀ {q x y : Bytes} {n m : Nat} {a : α},
    read ⟨q ++ x, n⟩ = .ok (a, ⟨x, m⟩) → read ⟨q ++ y, n⟩ = .ok (a, ⟨y, m⟩)
  /-- Cut short inside the bytes it took, a read fails. -/
  cut : ∀ {u t : Bytes} {n : Nat} {a : α} {c' : Cursor},
    read ⟨u ++ t, n⟩ = .ok (a, c') → c'.rest.length < t.length → ∃ e, read ⟨u, n⟩ = .error e

/-- Whatever bytes a run of `read` took, `read` fails on each proper prefix of them, and with
other bytes after them it takes exactly them again and gives the same value: no byte string
`read` takes is a proper prefix of another. -/
def PrefixFree {ε α : Type} (read : Cursor → Except ε (α × Cursor)) : Prop :=
  ∀ (c c' : Cursor) (a : α) (q : Bytes), read c = .ok (a, c') → c.rest = q ++ c'.rest →
    (∀ p, p <+: q → p ≠ q → ∃ e, read ⟨p, c.pos⟩ = .error e) ∧
      ∀ s, read ⟨q ++ s, c.pos⟩ = .ok (a, ⟨s, c'.pos⟩)

namespace PrefixCode

variable {ε ε' α β : Type} {read : Cursor → Except ε (α × Cursor)}

/-- Cut after some point, a read either took only bytes before it, and reads them the same way,
or took bytes after it, and fails. -/
theorem cut_or_frame (h : PrefixCode read) {u t : Bytes} {n : Nat} {a : α} {c' : Cursor}
    (hr : read ⟨u ++ t, n⟩ = .ok (a, c')) :
    (∃ w, c'.rest = w ++ t ∧ read ⟨u, n⟩ = .ok (a, ⟨w, c'.pos⟩)) ∨
      (c'.rest.length < t.length ∧ ∃ e, read ⟨u, n⟩ = .error e) := by
  by_cases hlt : c'.rest.length < t.length
  · exact .inr ⟨hlt, h.cut hr hlt⟩
  · obtain ⟨q, hq⟩ := h.advance hr
    obtain ⟨w, rfl, hw⟩ := exists_append_of_length_le hq (Nat.le_of_not_lt hlt)
    have hr' : read ⟨q ++ (w ++ t), n⟩ = .ok (a, ⟨w ++ t, c'.pos⟩) := by
      rw [← List.append_assoc, ← hw]
      exact hr
    exact .inl ⟨w, hw, h.frame hr'⟩

theorem fails_of_prefix (h : PrefixCode read) {c c' : Cursor} {a : α} {q p : Bytes}
    (hr : read c = .ok (a, c')) (hq : c.rest = q ++ c'.rest) (hp : p <+: q) (hne : p ≠ q) :
    ∃ e, read ⟨p, c.pos⟩ = .error e := by
  obtain ⟨s, rfl⟩ := hp
  have hs : s ≠ [] := by
    rintro rfl
    exact hne (List.append_nil p).symm
  have hr' : read ⟨p ++ (s ++ c'.rest), c.pos⟩ = .ok (a, c') := by
    rw [← List.append_assoc, ← hq]
    exact hr
  refine h.cut hr' ?_
  simpa using List.length_pos_of_ne_nil hs

theorem frame_append (h : PrefixCode read) {c c' : Cursor} {a : α} {q : Bytes}
    (hr : read c = .ok (a, c')) (hq : c.rest = q ++ c'.rest) (y : Bytes) :
    read ⟨q ++ y, c.pos⟩ = .ok (a, ⟨y, c'.pos⟩) := by
  have hr' : read ⟨q ++ c'.rest, c.pos⟩ = .ok (a, ⟨c'.rest, c'.pos⟩) := by
    rw [← hq]
    exact hr
  exact h.frame hr'

theorem prefixFree (h : PrefixCode read) : PrefixFree read := fun _ _ _ _ hr hq =>
  ⟨fun _ hp hne => h.fails_of_prefix hr hq hp hne, h.frame_append hr hq⟩

/-- A read that takes the words of a grammar in which no word is a proper prefix of another,
and gives for each word what the grammar says, reads a prefix code. -/
theorem of_grammar {G : α → Bytes → Prop}
    (sound : ∀ {c : Cursor} {a : α} {c' : Cursor}, read c = .ok (a, c') →
      ∃ q, G a q ∧ c.rest = q ++ c'.rest ∧ c'.pos = c.pos + q.length)
    (complete : ∀ {a : α} {q r : Bytes} {n : Nat}, G a q →
      read ⟨q ++ r, n⟩ = .ok (a, ⟨r, n + q.length⟩))
    (free : ∀ {a a' : α} {q q' r r' : Bytes}, G a q → G a' q' → q ++ r = q' ++ r' → q = q') :
    PrefixCode read where
  advance hr := by
    obtain ⟨q, -, hq, -⟩ := sound hr
    exact ⟨q, hq⟩
  frame {q x y n m a} hr := by
    obtain ⟨q', hg, hq, hm⟩ := sound hr
    obtain rfl : q = q' := List.append_cancel_right hq
    simp only at hm
    rw [hm]
    exact complete hg
  cut {u t n a c'} hr hlt := by
    obtain ⟨q, hg, hq, -⟩ := sound hr
    match hu : read ⟨u, n⟩ with
    | .error e => exact ⟨e, rfl⟩
    | .ok (a', c'') =>
      obtain ⟨q', hg', hq', -⟩ := sound hu
      simp only at hq hq'
      -- both reads start with a word of the grammar, so with the same one
      obtain rfl : q' = q := free hg' hg (by rw [← List.append_assoc, ← hq', hq])
      rw [hq', List.append_assoc] at hq
      have hrest := List.append_cancel_left hq
      rw [← hrest, List.length_append] at hlt
      omega

theorem bind {k : α × Cursor → Except ε (β × Cursor)} (hr : PrefixCode read)
    (hk : ∀ a, PrefixCode fun c => k (a, c)) : PrefixCode fun c => read c >>= k where
  advance {c b c''} h := by
    obtain ⟨⟨a, c'⟩, h₁, h₂⟩ := Except.bind_eq_ok.mp h
    obtain ⟨q₁, hq₁⟩ := hr.advance h₁
    obtain ⟨q₂, hq₂⟩ := (hk a).advance h₂
    exact ⟨q₁ ++ q₂, by rw [hq₁, hq₂, List.append_assoc]⟩
  frame {q x y n m b} h := by
    obtain ⟨⟨a, c'⟩, h₁, h₂⟩ := Except.bind_eq_ok.mp h
    obtain ⟨q₂, hq₂⟩ := (hk a).advance h₂
    obtain ⟨q₁, hq₁⟩ := hr.advance h₁
    -- the second read took what the first one left of `q`
    obtain rfl : q = q₁ ++ q₂ := List.append_cancel_right (by rw [List.append_assoc, ← hq₂]; exact hq₁)
    have h₁' : read ⟨q₁ ++ (q₂ ++ x), n⟩ = .ok (a, ⟨q₂ ++ x, c'.pos⟩) := by
      rw [← List.append_assoc, ← hq₂]
      exact h₁
    have h₂' : k (a, ⟨q₂ ++ x, c'.pos⟩) = .ok (b, ⟨x, m⟩) := by
      rw [← hq₂]
      exact h₂
    show read ⟨q₁ ++ q₂ ++ y, n⟩ >>= k = _
    rw [List.append_assoc, hr.frame h₁']
    exact (hk a).frame h₂'
  cut {u t n b c''} h hlt := by
    obtain ⟨⟨a, c'⟩, h₁, h₂⟩ := Except.bind_eq_ok.mp h
    rcases hr.cut_or_frame h₁ with ⟨w, hw, h₁'⟩ | ⟨-, e, he⟩
    · -- the first read stayed before the cut, so the second one crosses it
      have h₂' : k (a, ⟨w ++ t, c'.pos⟩) = .ok (b, c'') := by
        rw [← hw]
        exact h₂
      obtain ⟨e, he⟩ := (hk a).cut h₂' hlt
      exact ⟨e, by show read ⟨u, n⟩ >>= k = _; rw [h₁']; exact he⟩
    · exact ⟨e, by show read ⟨u, n⟩ >>= k = _; rw [he]; rfl⟩

theorem mapError (h : PrefixCode read) (f : ε → ε') : PrefixCode fun c => (read c).mapError f where
  advance hr := h.advance (Except.mapError_eq_ok.mp hr)
  frame hr := Except.mapError_eq_ok.mpr (h.frame (Except.mapError_eq_ok.mp hr))
  cut hr hlt := by
    obtain ⟨e, he⟩ := h.cut (Except.mapError_eq_ok.mp hr) hlt
    exact ⟨f e, by simp [he, Except.mapError]⟩

theorem of_pure (a : α) : PrefixCode fun c => (pure (a, c) : Except ε (α × Cursor)) where
  advance hr := by
    cases hr
    exact ⟨[], rfl⟩
  frame {q x y n m a'} hr := by
    obtain ⟨rfl, hc⟩ := Prod.mk.inj (Except.ok.inj hr)
    obtain ⟨hq, rfl⟩ := Cursor.mk.inj hc
    obtain rfl : q = [] := List.append_cancel_right (hq.trans (List.nil_append x).symm)
    rfl
  cut {u t n a' c'} hr hlt := by
    obtain ⟨-, rfl⟩ := Prod.mk.inj (Except.ok.inj hr)
    simp at hlt

theorem of_throw (e : ε) : PrefixCode fun _ => (throw e : Except ε (α × Cursor)) where
  advance hr := by cases hr
  frame hr := by cases hr
  cut hr := by cases hr

end PrefixCode

/-! ## The byte-level reads -/

/-- Of two varints at the front of one byte string, neither runs past the other: each ends at the
first byte with a clear top bit. -/
theorem Varint.eq_of_append_eq {v v' : Nat} {q q' r r' : Bytes} (h : Varint v q) (h' : Varint v' q')
    (he : q ++ r = q' ++ r') : q = q' := by
  induction h generalizing v' q' r r' with
  | last hb =>
    cases h' with
    | last => simp_all
    | more hb' =>
      simp only [List.cons_append, List.cons.injEq] at he
      rw [he.1] at hb
      omega
  | more hb _ ih =>
    cases h' with
    | last hb' =>
      simp only [List.cons_append, List.cons.injEq] at he
      rw [he.1] at hb
      omega
    | more hb' h' =>
      simp only [List.cons_append, List.cons.injEq] at he
      rw [he.1, ih h' he.2]

/-- Of two NUL-free byte strings each followed by a NUL at the front of one byte string, neither
runs past the other: each ends at the first NUL. -/
theorem eq_of_append_zero_eq {e e' r r' : Bytes} (h : (0 : UInt8) ∉ e) (h' : (0 : UInt8) ∉ e')
    (he : e ++ 0 :: r = e' ++ 0 :: r') : e = e' := by
  induction e generalizing e' with
  | nil =>
    cases e' with
    | nil => rfl
    | cons b e' =>
      simp only [List.nil_append, List.cons_append, List.cons.injEq] at he
      exact absurd (he.1 ▸ List.mem_cons_self) h'
  | cons b e ih =>
    cases e' with
    | nil =>
      simp only [List.nil_append, List.cons_append, List.cons.injEq] at he
      exact absurd (he.1 ▸ List.mem_cons_self) h
    | cons b' e' =>
      simp only [List.cons_append, List.cons.injEq] at he
      rw [he.1, ih (fun hm => h (List.mem_cons_of_mem b hm))
        (fun hm => h' (List.mem_cons_of_mem b' hm)) he.2]

namespace Cursor

theorem prefixCode_take (n : Nat) : PrefixCode fun c : Cursor => c.take n :=
  PrefixCode.of_grammar (G := fun bs q => q = bs ∧ bs.length = n)
    (fun hr => by
      obtain ⟨hrest, hlen, hpos⟩ := take_eq_ok hr
      exact ⟨_, ⟨rfl, hlen⟩, hrest, by rw [hpos, hlen]⟩)
    (fun ⟨rfl, rfl⟩ => take_of_rest rfl)
    (fun ⟨rfl, hl⟩ ⟨rfl, hl'⟩ he => (List.append_inj he (hl.trans hl'.symm)).1)

theorem prefixCode_readUInt (w : Nat) : PrefixCode fun c : Cursor => c.readUInt w := by
  unfold readUInt
  exact (prefixCode_take w).bind fun bs => PrefixCode.of_pure _

theorem prefixCode_readVarU32 : PrefixCode fun c : Cursor => c.readVarU32 :=
  PrefixCode.of_grammar (G := fun v q => Varint v q ∧ q.length ≤ 5 ∧ v < 2 ^ (32 : Nat))
    (fun hr => by
      obtain ⟨q, hv, hlen, hlt, hrest, hpos⟩ := readVarU32_eq_ok_iff.mp hr
      exact ⟨q, ⟨hv, hlen, hlt⟩, hrest, hpos⟩)
    (fun ⟨hv, hlen, hlt⟩ => readVarU32_eq_ok_iff.mpr ⟨_, hv, hlen, hlt, rfl, rfl⟩)
    (fun ⟨hv, _⟩ ⟨hv', _⟩ he => Varint.eq_of_append_eq hv hv' he)

theorem prefixCode_readString (maxLen : Nat) : PrefixCode fun c : Cursor => c.readString maxLen :=
  PrefixCode.of_grammar (G := fun s q => q = encodeUtf8 s ++ [0] ∧ (encodeUtf8 s).length ≤ maxLen ∧
      0 ∉ encodeUtf8 s ∧ (encodeUtf8 s).length < maxSize)
    (fun hr => by
      obtain ⟨hrest, hpos, hlen, hnul⟩ := readString_eq_ok hr
      exact ⟨_, ⟨rfl, hlen, hnul, readString_length_lt hr⟩, by simpa using hrest,
        by simp [hpos, Nat.add_assoc]⟩)
    (fun {s q r n} hg => by
      obtain ⟨rfl, hlen, hnul, hsize⟩ := hg
      have hc : (⟨encodeUtf8 s ++ [0] ++ r, n⟩ : Cursor).rest = encodeUtf8 s ++ 0 :: r := by simp
      rw [readString_of_rest hc hlen hnul hsize]
      simp [Nat.add_assoc])
    (fun hg hg' he => by
      obtain ⟨rfl, -, hnul, -⟩ := hg
      obtain ⟨rfl, -, hnul', -⟩ := hg'
      simp only [List.append_assoc, List.singleton_append] at he
      rw [eq_of_append_zero_eq hnul hnul' he])

end Cursor

end EntitySync
