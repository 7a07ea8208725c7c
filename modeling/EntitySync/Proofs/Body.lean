import EntitySync.Proofs.FieldBlock
/-!
# Snapshot bodies read back

A body carries the change from a baseline snapshot to a current one: the count of its entries
and, slot by slot in ascending order, a removal, or a present entity's field block against its
baseline state (the zero state for a new entity). Entities that did not change are left out.

The main statement is `decodeBody_encodeBody`: a body that was encoded decodes, on top of the
baseline's quantized form and at any tick, to the current snapshot's quantized form. The sender
may compare against the raw baseline while the receiver holds its quantized form. The statement
needs the states of both snapshots settled (quantizing a second time changes nothing) and a
schema whose string bounds are 16-bit; that both list their slots in ascending order is part of
what a snapshot is.

The proof follows the merged slots: `stageEntries_cons_eq_ok` says what staging does with one
slot, `decodeBodyEntries_succ_present` and `decodeBodyEntries_succ_removed` what the decoder does
with one entry, and `decodeBodyEntries_stageEntries` runs the two side by side over the merged
slots, with the accumulator holding the settled states before the current slot and the quantized
baseline states after it; it names the snapshot it ends with by its tick and its entries.
-/

namespace EntitySync

/-! ## Snapshots listed by slot -/

variable {schema : Schema} {limits : CodecLimits}

/-- A snapshot is settled when each of its states is. -/
def Snapshot.Settled (schema : Schema) (s : Snapshot) : Prop := ∀ e ∈ s.entities, e.2.Settled schema

instance (schema : Schema) (s : Snapshot) : Decidable (s.Settled schema) :=
  inferInstanceAs (Decidable (∀ e ∈ _, _))

theorem Slot.eq_of_toNat_eq {a b : Slot} (h : a.toNat = b.toNat) : a = b := by
  obtain ⟨a, ha⟩ := a
  obtain ⟨b, hb⟩ := b
  simp only [Slot.toNat] at h
  simp [UInt16.toNat_inj.mp h]

theorem Slot.ofNat?_toNat (s : Slot) : Slot.ofNat? s.toNat = some s := by
  obtain ⟨raw, hraw⟩ := s
  have hpos : 0 < raw.toNat := by
    rcases Nat.eq_zero_or_pos raw.toNat with h | h
    · exact absurd (UInt16.toNat_inj.mp (by simpa using h)) hraw
    · exact h
  simp [Slot.ofNat?, Slot.toNat, hpos, raw.toNat_lt]

theorem length_le_of_pairwise_slot {L : List (Slot × α)}
    (h : L.Pairwise (fun a b => a.1.toNat < b.1.toNat)) : L.length ≤ 2 ^ (16 : Nat) := by
  have hnd : (L.map (·.1.toNat)).Nodup := by
    rw [List.Nodup, List.pairwise_map]
    exact h.imp Nat.ne_of_lt
  have hsub : L.map (·.1.toNat) ⊆ List.range (2 ^ (16 : Nat)) := by
    intro x hx
    obtain ⟨e, -, rfl⟩ := List.mem_map.mp hx
    exact List.mem_range.mpr e.1.raw.toNat_lt
  simpa using List.Nodup.length_le_of_subset hnd hsub

namespace Snapshot

variable {t : Tick} {k k' : Slot} {v : EntityState} {L : List (Slot × EntityState)}

@[simp] theorem get?_cons_self {h : ((k, v) :: L).Pairwise fun a b => a.1.toNat < b.1.toNat} :
    (⟨t, (k, v) :: L, h⟩ : Snapshot).get? k = some v := by
  simp [get?]

theorem get?_cons_of_ne {h : ((k', v) :: L).Pairwise fun a b => a.1.toNat < b.1.toNat}
    (hne : k'.toNat ≠ k.toNat) :
    (⟨t, (k', v) :: L, h⟩ : Snapshot).get? k = (⟨t, L, h.of_cons⟩ : Snapshot).get? k := by
  simp [get?, hne]

theorem get?_of_lt {hL : L.Pairwise fun a b => a.1.toNat < b.1.toNat}
    (h : ∀ x ∈ L, k.toNat < x.1.toNat) : (⟨t, L, hL⟩ : Snapshot).get? k = none := by
  simp only [get?, Option.map_eq_none_iff, List.find?_eq_none]
  intro x hx
  have := h x hx
  simp
  omega

variable {st : EntityState} {D T : List (Slot × EntityState)}

theorem get?_append_of_lt {h : (D ++ T).Pairwise fun a b => a.1.toNat < b.1.toNat}
    (hD : ∀ x ∈ D, x.1.toNat < k.toNat) :
    (⟨t, D ++ T, h⟩ : Snapshot).get? k = (⟨t, T, (List.pairwise_append.mp h).2.1⟩ : Snapshot).get? k := by
  have hnone : D.find? (·.1.toNat == k.toNat) = none := by
    rw [List.find?_eq_none]
    intro x hx
    have := hD x hx
    simp
    omega
  simp [get?, List.find?_append, hnone]

theorem insertSorted_append_of_lt (hD : ∀ x ∈ D, x.1.toNat < k.toNat) :
    insertSorted k st (D ++ T) = D ++ insertSorted k st T := by
  induction D with
  | nil => rfl
  | cons x D ih =>
    obtain ⟨k', v⟩ := x
    have hx := hD (k', v) (by simp)
    simp only at hx
    rw [List.cons_append, insertSorted, if_neg (by omega), if_neg (by omega),
      ih fun y hy => hD y (List.mem_cons_of_mem _ hy), List.cons_append]

theorem insertSorted_cons_of_eq (h : k'.toNat = k.toNat) :
    insertSorted k st ((k', v) :: T) = (k, st) :: T := by
  rw [insertSorted, if_neg (by omega), if_pos h.symm]

theorem insertSorted_of_lt (hT : ∀ x ∈ T, k.toNat < x.1.toNat) :
    insertSorted k st T = (k, st) :: T := by
  cases T with
  | nil => rfl
  | cons x T =>
    obtain ⟨k', v⟩ := x
    rw [insertSorted, if_pos (hT (k', v) (by simp))]

theorem filter_ne_of_lt (hD : ∀ x ∈ D, x.1.toNat < k.toNat) (hT : ∀ x ∈ T, k.toNat < x.1.toNat)
    (h : k'.toNat = k.toNat) :
    (D ++ (k', v) :: T).filter (·.1.toNat != k.toNat) = D ++ T := by
  rw [List.filter_append, List.filter_cons, List.filter_eq_self.mpr, List.filter_eq_self.mpr]
  · simp [h]
  · intro x hx
    have := hT x hx
    simp
    omega
  · intro x hx
    have := hD x hx
    simp
    omega

theorem get?_quantized (s : Snapshot) (schema : Schema) (k : Slot) :
    (s.quantized schema).get? k = (s.get? k).map (·.quantized schema) := by
  simp [get?, quantized, List.find?_map, Function.comp_def]

theorem mem_of_get? {s : Snapshot} (h : s.get? k = some v) : ∃ k', (k', v) ∈ s.entities := by
  simp only [get?, Option.map_eq_some_iff] at h
  obtain ⟨⟨k', v'⟩, hfind, rfl⟩ := h
  exact ⟨k', List.mem_of_find?_eq_some hfind⟩

end Snapshot

/-! ## Merging two snapshots slot by slot -/

theorem mergeSlots_current (B C : List (Slot × EntityState)) :
    (mergeSlots B C).filterMap (fun e => e.2.2.map (e.1, ·)) = C := by
  fun_induction mergeSlots B C with
  | case1 => rfl
  | case2 k v bs ih => simpa using ih
  | case3 k v cs ih => simpa using ih
  | case4 k v bs k' v' cs hlt ih => simpa using ih
  | case5 k v bs k' v' cs hnlt hlt ih => simpa using ih
  | case6 k v bs k' v' cs hnlt hnlt' ih =>
    simp [ih, Slot.eq_of_toNat_eq (show k.toNat = k'.toNat by omega)]

theorem mergeSlots_baseline (B C : List (Slot × EntityState)) :
    (mergeSlots B C).filterMap (fun e => e.2.1.map (e.1, ·)) = B := by
  fun_induction mergeSlots B C with
  | case1 => rfl
  | case2 k v bs ih => simpa using ih
  | case3 k v cs ih => simpa using ih
  | case4 k v bs k' v' cs hlt ih => simpa using ih
  | case5 k v bs k' v' cs hnlt hlt ih => simpa using ih
  | case6 k v bs k' v' cs hnlt hnlt' ih => simpa using ih

theorem mergeSlots_some (B C : List (Slot × EntityState)) :
    ∀ e ∈ mergeSlots B C, e.2.1.isSome ∨ e.2.2.isSome := by
  fun_induction mergeSlots B C with
  | case1 => simp
  | case2 k v bs ih => simpa using ih
  | case3 k v cs ih => simpa using ih
  | case4 k v bs k' v' cs hlt ih => simpa using ih
  | case5 k v bs k' v' cs hnlt hlt ih => simpa using ih
  | case6 k v bs k' v' cs hnlt hnlt' ih => simpa using ih

theorem mergeSlots_mem {B C : List (Slot × EntityState)} {e : Slot × Option EntityState × Option EntityState}
    (he : e ∈ mergeSlots B C) : (∃ v, (e.1, v) ∈ B) ∨ ∃ v, (e.1, v) ∈ C := by
  rcases mergeSlots_some B C e he with hb | hc
  · obtain ⟨v, hv⟩ := Option.isSome_iff_exists.mp hb
    refine .inl ⟨v, ?_⟩
    rw [← mergeSlots_baseline B C, List.mem_filterMap]
    exact ⟨e, he, by simp [hv]⟩
  · obtain ⟨v, hv⟩ := Option.isSome_iff_exists.mp hc
    refine .inr ⟨v, ?_⟩
    rw [← mergeSlots_current B C, List.mem_filterMap]
    exact ⟨e, he, by simp [hv]⟩

theorem mergeSlots_pairwise {B C : List (Slot × EntityState)}
    (hB : B.Pairwise (fun a b => a.1.toNat < b.1.toNat))
    (hC : C.Pairwise (fun a b => a.1.toNat < b.1.toNat)) :
    (mergeSlots B C).Pairwise (fun a b => a.1.toNat < b.1.toNat) := by
  fun_induction mergeSlots B C with
  | case1 => simp
  | case2 k v bs ih =>
    rw [List.pairwise_cons] at hB ⊢
    refine ⟨fun e he => ?_, ih hB.2 hC⟩
    rcases mergeSlots_mem he with ⟨w, hw⟩ | ⟨w, hw⟩
    · exact hB.1 _ hw
    · simp at hw
  | case3 k v cs ih =>
    rw [List.pairwise_cons] at hC ⊢
    refine ⟨fun e he => ?_, ih hB hC.2⟩
    rcases mergeSlots_mem he with ⟨w, hw⟩ | ⟨w, hw⟩
    · simp at hw
    · exact hC.1 _ hw
  | case4 k v bs k' v' cs hlt ih =>
    rw [List.pairwise_cons] at hB ⊢
    refine ⟨fun e he => ?_, ih hB.2 hC⟩
    rcases mergeSlots_mem he with ⟨w, hw⟩ | ⟨w, hw⟩
    · exact hB.1 _ hw
    · rcases List.mem_cons.mp hw with heq | hw
      · cases heq; exact hlt
      · exact Nat.lt_trans hlt ((List.pairwise_cons.mp hC).1 _ hw)
  | case5 k v bs k' v' cs hnlt hlt ih =>
    rw [List.pairwise_cons] at hC ⊢
    refine ⟨fun e he => ?_, ih hB hC.2⟩
    rcases mergeSlots_mem he with ⟨w, hw⟩ | ⟨w, hw⟩
    · rcases List.mem_cons.mp hw with heq | hw
      · cases heq; exact hlt
      · exact Nat.lt_trans hlt ((List.pairwise_cons.mp hB).1 _ hw)
    · exact hC.1 _ hw
  | case6 k v bs k' v' cs hnlt hnlt' ih =>
    rw [List.pairwise_cons] at hB hC ⊢
    refine ⟨fun e he => ?_, ih hB.2 hC.2⟩
    rcases mergeSlots_mem he with ⟨w, hw⟩ | ⟨w, hw⟩
    · exact hB.1 _ hw
    · have := hC.1 _ hw
      simp only at this ⊢
      omega

/-- Each merged slot carries the state of each side at that slot, or `none` where that side has
no state there. -/
theorem mergeSlots_get {B C : List (Slot × EntityState)} (t : Tick)
    (hB : B.Pairwise (fun a b => a.1.toNat < b.1.toNat))
    (hC : C.Pairwise (fun a b => a.1.toNat < b.1.toNat)) :
    ∀ e ∈ mergeSlots B C,
      (⟨t, B, hB⟩ : Snapshot).get? e.1 = e.2.1 ∧ (⟨t, C, hC⟩ : Snapshot).get? e.1 = e.2.2 := by
  fun_induction mergeSlots B C with
  | case1 => simp
  | case2 k v bs ih =>
    rw [List.pairwise_cons] at hB
    intro e he
    rcases List.mem_cons.mp he with rfl | he
    · simp [Snapshot.get?]
    · obtain ⟨w, hw⟩ | ⟨w, hw⟩ := mergeSlots_mem he
      · rw [Snapshot.get?_cons_of_ne (by have := hB.1 _ hw; simp only at this; omega)]
        exact ih hB.2 hC e he
      · simp at hw
  | case3 k v cs ih =>
    rw [List.pairwise_cons] at hC
    intro e he
    rcases List.mem_cons.mp he with rfl | he
    · simp [Snapshot.get?]
    · obtain ⟨w, hw⟩ | ⟨w, hw⟩ := mergeSlots_mem he
      · simp at hw
      · rw [Snapshot.get?_cons_of_ne (by have := hC.1 _ hw; simp only at this; omega)]
        exact ih hB hC.2 e he
  | case4 k v bs k' v' cs hlt ih =>
    have hC' := List.pairwise_cons.mp hC
    rw [List.pairwise_cons] at hB
    intro e he
    rcases List.mem_cons.mp he with rfl | he
    · refine ⟨by simp, Snapshot.get?_of_lt fun x hx => ?_⟩
      rcases List.mem_cons.mp hx with rfl | hx
      · exact hlt
      · exact Nat.lt_trans hlt (hC'.1 _ hx)
    · have hk : k.toNat < e.1.toNat := by
        obtain ⟨w, hw⟩ | ⟨w, hw⟩ := mergeSlots_mem he
        · exact hB.1 _ hw
        · rcases List.mem_cons.mp hw with heq | hw
          · rw [(Prod.mk.inj heq).1]; exact hlt
          · exact Nat.lt_trans hlt (hC'.1 _ hw)
      rw [Snapshot.get?_cons_of_ne (by omega)]
      exact ih hB.2 hC e he
  | case5 k v bs k' v' cs hnlt hlt ih =>
    have hB' := List.pairwise_cons.mp hB
    rw [List.pairwise_cons] at hC
    intro e he
    rcases List.mem_cons.mp he with rfl | he
    · refine ⟨Snapshot.get?_of_lt fun x hx => ?_, by simp⟩
      rcases List.mem_cons.mp hx with rfl | hx
      · exact hlt
      · exact Nat.lt_trans hlt (hB'.1 _ hx)
    · have hk : k'.toNat < e.1.toNat := by
        obtain ⟨w, hw⟩ | ⟨w, hw⟩ := mergeSlots_mem he
        · rcases List.mem_cons.mp hw with heq | hw
          · rw [(Prod.mk.inj heq).1]; exact hlt
          · exact Nat.lt_trans hlt (hB'.1 _ hw)
        · exact hC.1 _ hw
      rw [Snapshot.get?_cons_of_ne (t := t) (v := v') (L := cs) (by omega)]
      exact ih hB hC.2 e he
  | case6 k v bs k' v' cs hnlt hnlt' ih =>
    have hkk : k' = k := Slot.eq_of_toNat_eq (by omega)
    subst hkk
    rw [List.pairwise_cons] at hB hC
    intro e he
    rcases List.mem_cons.mp he with rfl | he
    · simp
    · have hk : k'.toNat < e.1.toNat := by
        obtain ⟨w, hw⟩ | ⟨w, hw⟩ := mergeSlots_mem he
        · exact hB.1 _ hw
        · exact hC.1 _ hw
      rw [Snapshot.get?_cons_of_ne (by omega), Snapshot.get?_cons_of_ne (by omega)]
      exact ih hB.2 hC.2 e he

theorem filterMap_mergeSlots_current (B C : List (Slot × EntityState)) :
    (mergeSlots B C).filterMap (fun e => e.2.2.map fun v => (e.1, v.quantized schema)) =
      C.map fun e => (e.1, e.2.quantized schema) := by
  conv_rhs => rw [← mergeSlots_current B C]
  rw [List.map_filterMap]
  simp [Option.map_map, Function.comp_def]

theorem filterMap_mergeSlots_baseline (B C : List (Slot × EntityState)) :
    (mergeSlots B C).filterMap (fun e => e.2.1.map fun v => (e.1, v.quantized schema)) =
      B.map fun e => (e.1, e.2.quantized schema) := by
  conv_rhs => rw [← mergeSlots_baseline B C]
  rw [List.map_filterMap]
  simp [Option.map_map, Function.comp_def]

/-! ## Staging and reading entries -/

open WriteM

/-- What one staged entry does: a removal writes its slot and a clear exists byte, a present
entity that changed writes its slot, a set exists byte and its block, and one that did not change
against a baseline writes nothing. Every slot staged lies below the slot bound. -/
theorem stageEntries_cons_eq_ok {slot : Slot} {base cur : Option EntityState}
    {L : List (Slot × Option EntityState × Option EntityState)} {n n' : Nat} {s s' : Buffer}
    (h : (stageEntries schema limits ((slot, base, cur) :: L) n).run s = .ok n' s') :
    slot.toNat < limits.maxSlots ∧
      ((cur = none ∧ (stageEntries schema limits L (n + 1)).run
          (s.appended (encodeVarint slot.toNat ++ [0])) = .ok n' s') ∨
        (∃ st w, cur = some st ∧ base.isSome ∧ composeFields schema base st = .ok (w, 0) ∧
          (stageEntries schema limits L n).run s = .ok n' s') ∨
        (∃ st w changed, cur = some st ∧ composeFields schema base st = .ok (w, changed) ∧
          ¬(base.isSome ∧ changed = 0) ∧ (stageEntries schema limits L (n + 1)).run
            (s.appended (encodeVarint slot.toNat ++ 1 :: w.encoding)) = .ok n' s')) := by
  simp only [stageEntries] at h
  split at h
  · rw [run_bind_error (run_throw s)] at h
    cases h
  · next hslot =>
    refine ⟨Nat.lt_of_not_le hslot, ?_⟩
    cases cur with
    | none =>
      obtain ⟨_, s₁, h₁, h⟩ := run_bind_eq_ok h
      obtain ⟨_, s₂, h₂, h⟩ := run_bind_eq_ok h
      obtain rfl := write_run_eq_ok (run_adaptExcept_eq_ok h₁)
      obtain rfl := write_run_eq_ok (run_adaptExcept_eq_ok h₂)
      exact .inl ⟨rfl, by simpa using h⟩
    | some st =>
      obtain ⟨⟨w, changed⟩, s₁, h₁, hrest⟩ := run_bind_eq_ok h
      obtain ⟨hcomp, rfl⟩ := run_liftExcept_eq_ok h₁
      by_cases hskip : base.isSome = true ∧ changed = 0
      · rw [if_pos hskip] at hrest
        obtain ⟨hsome, rfl⟩ := hskip
        exact .inr (.inl ⟨st, w, rfl, hsome, hcomp, hrest⟩)
      · rw [if_neg hskip] at hrest
        obtain ⟨_, s₂, h₂, h⟩ := run_bind_eq_ok hrest
        obtain ⟨_, s₃, h₃, h⟩ := run_bind_eq_ok h
        obtain ⟨_, s₄, h₄, h⟩ := run_bind_eq_ok h
        obtain rfl := write_run_eq_ok (run_adaptExcept_eq_ok h₂)
        obtain rfl := write_run_eq_ok (run_adaptExcept_eq_ok h₃)
        obtain ⟨-, -, -, hnone, -⟩ := composeFields_ok hcomp
        obtain rfl := FieldBlock.Writer.finishInto_run_eq_ok hnone (run_adaptExcept_eq_ok h₄)
        exact .inr (.inr ⟨st, w, changed, rfl, hcomp, hskip, by simpa using h⟩)

theorem stageEntries_eq_ok {L : List (Slot × Option EntityState × Option EntityState)}
    {n n' : Nat} {s s' : Buffer} (h : (stageEntries schema limits L n).run s = .ok n' s') :
    (∃ bs, s' = s.appended bs) ∧ n ≤ n' ∧ n' ≤ n + L.length := by
  induction L generalizing n s with
  | nil =>
    simp only [stageEntries, run_pure, EStateM.Result.ok.injEq] at h
    obtain ⟨rfl, rfl⟩ := h
    exact ⟨⟨[], by simp⟩, le_refl _, by simp⟩
  | cons e L ih =>
    obtain ⟨slot, base, cur⟩ := e
    obtain ⟨-, hstep⟩ := stageEntries_cons_eq_ok h
    rcases hstep with ⟨-, hrest⟩ | ⟨_, _, -, -, -, hrest⟩ | ⟨_, _, _, -, -, -, hrest⟩
    · obtain ⟨⟨bs, rfl⟩, hle, hge⟩ := ih hrest
      exact ⟨⟨_, Buffer.appended_appended⟩, by omega, by simp; omega⟩
    · obtain ⟨⟨bs, rfl⟩, hle, hge⟩ := ih hrest
      exact ⟨⟨bs, rfl⟩, hle, by simp; omega⟩
    · obtain ⟨⟨bs, rfl⟩, hle, hge⟩ := ih hrest
      exact ⟨⟨_, Buffer.appended_appended⟩, by omega, by simp; omega⟩

/-- A body is the count of its entries and the staged entries; it is written only when the
count is within the entry bound. -/
theorem encodeBody_eq_ok {B C : Snapshot} {out out' : Buffer} {n : Nat}
    (h : (encodeBody schema B C limits).run out = .ok n out') :
    ∃ count staged, (stageEntries schema limits (mergeSlots B.entities C.entities) 0).run
        (Buffer.empty out.free) = .ok count staged ∧
      count ≤ limits.maxEntries ∧ out.Fits (encodeVarint count ++ staged.data).length ∧
      out' = out.appended (encodeVarint count ++ staged.data) := by
  unfold encodeBody at h
  rw [run_bind_ok (run_get out)] at h
  cases hstage : (stageEntries schema limits (mergeSlots B.entities C.entities) 0).run
    (Buffer.empty out.free) with
  | error e staged =>
    simp only [hstage] at h
    cases h
  | ok count staged =>
    simp only [hstage] at h
    split at h
    · cases h
    · next hmax =>
      obtain ⟨_, o₁, h₁, h⟩ := run_bind_eq_ok h
      obtain ⟨_, o₂, h₂, h⟩ := run_bind_eq_ok h
      obtain ⟨_, o₃, h₃, h⟩ := run_bind_eq_ok h
      obtain ⟨hfit, rfl⟩ := ensureFree_run_eq_ok (run_adaptExcept_eq_ok h₁)
      obtain rfl := write_run_eq_ok (run_adaptExcept_eq_ok h₂)
      obtain rfl := write_run_eq_ok (run_adaptExcept_eq_ok h₃)
      simp only [run_pure, EStateM.Result.ok.injEq] at h
      refine ⟨count, staged, rfl, Nat.le_of_not_lt hmax, ?_, by rw [← h.2, Buffer.appended_appended]⟩
      simpa [Buffer.size] using hfit

section Decoding

variable {baseline : Snapshot} {count : Nat} {prev : Option Nat} {acc : Snapshot}
  {c c₁ c₂ : Cursor} {slot : Slot}

theorem decodeBodyEntries_succ_present {st : EntityState}
    (hread : c.readVarU32 = .ok (slot.toNat, c₁)) (hslot : slot.toNat < limits.maxSlots)
    (hprev : ∀ p, prev = some p → p < slot.toNat)
    (hentity : decodeEntity schema (baseline.get? slot) c₁ = .ok (some st, c₂)) :
    decodeBodyEntries schema baseline limits (count + 1) prev acc c =
      decodeBodyEntries schema baseline limits count (some slot.toNat) (acc.insert slot st).2 c₂ := by
  cases prev with
  | none =>
    simp [decodeBodyEntries, hread, Except.mapError, bind, Except.bind, Slot.ofNat?_toNat,
      Nat.not_le.mpr hslot, hentity, pure, Except.pure]
  | some p =>
    simp [decodeBodyEntries, hread, Except.mapError, bind, Except.bind, Slot.ofNat?_toNat,
      Nat.not_le.mpr hslot, Nat.not_le.mpr (hprev p rfl), hentity, pure, Except.pure]

theorem decodeBodyEntries_succ_removed {old : EntityState}
    (hread : c.readVarU32 = .ok (slot.toNat, c₁)) (hslot : slot.toNat < limits.maxSlots)
    (hprev : ∀ p, prev = some p → p < slot.toNat)
    (hentity : decodeEntity schema (baseline.get? slot) c₁ = .ok (none, c₂))
    (hold : acc.get? slot = some old) :
    decodeBodyEntries schema baseline limits (count + 1) prev acc c =
      decodeBodyEntries schema baseline limits count (some slot.toNat) (acc.erase slot).2 c₂ := by
  cases prev with
  | none =>
    simp [decodeBodyEntries, hread, Except.mapError, bind, Except.bind, Slot.ofNat?_toNat,
      Nat.not_le.mpr hslot, hentity, pure, Except.pure, Snapshot.erase, hold]
  | some p =>
    simp [decodeBodyEntries, hread, Except.mapError, bind, Except.bind, Slot.ofNat?_toNat,
      Nat.not_le.mpr hslot, Nat.not_le.mpr (hprev p rfl), hentity, pure, Except.pure,
      Snapshot.erase, hold]

end Decoding

/-! ## The round trip -/

theorem slot_lt_of_mem_filterMap {todo : List (Slot × Option EntityState × Option EntityState)}
    {g : Slot × Option EntityState × Option EntityState → Option EntityState} {n : Nat}
    (h : ∀ e ∈ todo, n < e.1.toNat) :
    ∀ x ∈ todo.filterMap (fun e => (g e).map fun v => (e.1, v.quantized schema)), n < x.1.toNat := by
  intro x hx
  obtain ⟨e, he, hx⟩ := List.mem_filterMap.mp hx
  obtain ⟨v, -, rfl⟩ := Option.map_eq_some_iff.mp hx
  exact h e he

/-- The body decoder reads back what staging wrote for the merged slots `todo`: on top of an
accumulator holding the states `D` already settled and the quantized baseline states still to
come, it ends holding `D` and the quantized current states. -/
theorem decodeBodyEntries_stageEntries {B : Snapshot} (hk : schema.Bounded)
    (hBs : ∀ e ∈ B.entities, e.2.Settled schema) :
    ∀ {todo : List (Slot × Option EntityState × Option EntityState)} {n n' : Nat} {s : Buffer}
      {bs rest : Bytes} {D : List (Slot × EntityState)} {prev : Option Nat} {acc : Snapshot}
      {c : Cursor},
    (stageEntries schema limits todo n).run s = .ok n' (s.appended bs) →
    c.rest = bs ++ rest →
    todo.Pairwise (fun a b => a.1.toNat < b.1.toNat) →
    (∀ e ∈ todo, B.get? e.1 = e.2.1 ∧ (e.2.1.isSome ∨ e.2.2.isSome) ∧
      ∀ st, e.2.2 = some st → st.Settled schema) →
    (∀ p, prev = some p → ∀ e ∈ todo, p < e.1.toNat) →
    (∀ x ∈ D, ∀ e ∈ todo, x.1.toNat < e.1.toNat) →
    acc.entities = D ++ todo.filterMap (fun e => e.2.1.map fun b => (e.1, b.quantized schema)) →
    ∃ snap, decodeBodyEntries schema (B.quantized schema) limits (n' - n) prev acc c =
        .ok (snap, ⟨rest, c.pos + bs.length⟩) ∧ snap.tick = acc.tick ∧
      snap.entities = D ++ todo.filterMap (fun e => e.2.2.map fun v => (e.1, v.quantized schema)) := by
  intro todo
  induction todo with
  | nil =>
    intro n n' s bs rest D prev acc c h hc _ _ _ _ hacc
    simp only [stageEntries, run_pure, EStateM.Result.ok.injEq] at h
    obtain ⟨rfl, hs⟩ := h
    obtain rfl : bs = [] := Buffer.appended_inj (hs.symm.trans (Buffer.appended_nil).symm)
    refine ⟨acc, ?_, rfl, by simpa using hacc⟩
    obtain ⟨crest, cpos⟩ := c
    simp_all [decodeBodyEntries]
  | cons e todo ih =>
    intro n n' s bs rest D prev acc c h hc hsorted hentries hprev hD hacc
    obtain ⟨slot, base, cur⟩ := e
    obtain ⟨tick, ents, hasc⟩ := acc
    simp only at hacc
    subst hacc
    obtain ⟨hslot, hstep⟩ := stageEntries_cons_eq_ok h
    obtain ⟨hlookup, hside, hcur⟩ := hentries (slot, base, cur) (by simp)
    obtain ⟨hafter, htail⟩ := List.pairwise_cons.mp hsorted
    simp only at hlookup hside hcur hafter
    have hentries' := fun e he => hentries e (List.mem_cons_of_mem _ he)
    have hD' : ∀ x ∈ D, x.1.toNat < slot.toNat := fun x hx => hD x hx (slot, base, cur) (by simp)
    have hDtodo : ∀ x ∈ D, ∀ e ∈ todo, x.1.toNat < e.1.toNat :=
      fun x hx e he => hD x hx e (List.mem_cons_of_mem _ he)
    have hbase : ∀ b, base = some b → b.Settled schema := fun b hb => by
      obtain ⟨k', hmem⟩ := Snapshot.mem_of_get? (hlookup.trans hb)
      exact hBs _ hmem
    have hget : (B.quantized schema).get? slot = base.map (·.quantized schema) := by
      rw [Snapshot.get?_quantized, hlookup]
    have hT : ∀ x ∈ todo.filterMap (fun e => e.2.1.map fun b => (e.1, b.quantized schema)),
        slot.toNat < x.1.toNat :=
      slot_lt_of_mem_filterMap hafter
    have hslot32 : slot.toNat < 2 ^ (32 : Nat) := by
      have := slot.raw.toNat_lt
      simp only [Slot.toNat]
      omega
    -- the entries decoded so far, with this slot's state when it keeps one
    have hDslot : ∀ v : EntityState, ∀ x ∈ D ++ [(slot, v)], ∀ e ∈ todo, x.1.toNat < e.1.toNat := by
      intro v x hx e he
      rcases List.mem_append.mp hx with hx | hx
      · exact hDtodo x hx e he
      · simp only [List.mem_singleton] at hx
        subst hx
        exact hafter e he
    rcases hstep with ⟨rfl, hrest⟩ | ⟨st, w, rfl, hsome, hcomp, hrest⟩ |
      ⟨st, w, changed, rfl, hcomp, hemit, hrest⟩
    · -- a removal: the baseline held a state there, and the decoder takes it away
      obtain ⟨b, rfl⟩ := Option.isSome_iff_exists.mp (by simpa using hside)
      obtain ⟨⟨bs', hbs'⟩, hle, -⟩ := stageEntries_eq_ok hrest
      rw [hbs'] at hrest
      rw [Buffer.appended_appended] at hbs'
      obtain rfl := Buffer.appended_inj hbs'
      have hread : c.readVarU32 = .ok (slot.toNat, ⟨0 :: (bs' ++ rest), c.pos + varintLen slot.toNat⟩) :=
        Cursor.readVarU32_of_rest (by simp [hc]) hslot32
      have hold : (⟨tick, _, hasc⟩ : Snapshot).get? slot = some (b.quantized schema) := by
        rw [Snapshot.get?_append_of_lt hD']
        simp
      have herase : ((⟨tick, _, hasc⟩ : Snapshot).erase slot).2.entities =
          D ++ todo.filterMap fun e => e.2.1.map fun b => (e.1, b.quantized schema) := by
        simp [Snapshot.erase, Snapshot.filter_ne_of_lt hD' hT rfl]
      obtain ⟨snap, hrun, htick, hents⟩ :=
        ih (c := ⟨bs' ++ rest, c.pos + varintLen slot.toNat + 1⟩) hrest rfl htail hentries'
          (fun p hp => by obtain rfl := Option.some.inj hp; exact hafter) hDtodo herase
      refine ⟨snap, ?_, htick, by simpa using hents⟩
      rw [show n' - n = (n' - (n + 1)) + 1 by omega,
        decodeBodyEntries_succ_removed hread hslot (fun p hp => hprev p hp _ (List.mem_cons_self ..))
          (decodeEntity_removed rfl) hold, hrun]
      simp [Nat.add_assoc]
      omega
    · -- an unchanged entity: nothing was written, and the baseline's state is already right
      obtain ⟨b, rfl⟩ := Option.isSome_iff_exists.mp hsome
      have hq := quantized_eq_of_composeFields_unchanged hcomp hk (hbase b rfl) (hcur st rfl)
      have hacc : D ++ (((slot, some b, some st) :: todo).filterMap
          fun e => e.2.1.map fun b => (e.1, b.quantized schema)) =
          (D ++ [(slot, st.quantized schema)]) ++ todo.filterMap
            fun e => e.2.1.map fun b => (e.1, b.quantized schema) := by
        simp [hq]
      obtain ⟨snap, hrun, htick, hents⟩ := ih hrest hc htail hentries'
        (fun p hp e he => hprev p hp e (List.mem_cons_of_mem _ he)) (hDslot _)
        (show (⟨tick, _, hasc⟩ : Snapshot).entities = _ from hacc)
      exact ⟨snap, hrun, htick, by simpa using hents⟩
    · -- a created or changed entity: its slot, its exists byte and its block were written
      obtain ⟨⟨bs', hbs'⟩, hle, -⟩ := stageEntries_eq_ok hrest
      rw [hbs'] at hrest
      rw [Buffer.appended_appended] at hbs'
      obtain rfl := Buffer.appended_inj hbs'
      have hread : c.readVarU32 = .ok (slot.toNat,
          ⟨1 :: (w.encoding ++ (bs' ++ rest)), c.pos + varintLen slot.toNat⟩) :=
        Cursor.readVarU32_of_rest (by simp [hc]) hslot32
      have hentity : decodeEntity schema ((B.quantized schema).get? slot)
          ⟨1 :: (w.encoding ++ (bs' ++ rest)), c.pos + varintLen slot.toNat⟩ =
          .ok (some (st.quantized schema),
            ⟨bs' ++ rest, c.pos + varintLen slot.toNat + 1 + w.encodedLen⟩) := by
        rw [hget]
        exact decodeEntity_present hcomp hk hbase (hcur st rfl) rfl
      have hinsert : ((⟨tick, _, hasc⟩ : Snapshot).insert slot (st.quantized schema)).2.entities =
          (D ++ [(slot, st.quantized schema)]) ++ todo.filterMap
            fun e => e.2.1.map fun b => (e.1, b.quantized schema) := by
        simp only [Snapshot.insert, Snapshot.insertSorted_append_of_lt hD', List.filterMap_cons]
        cases base with
        | none => simp [Snapshot.insertSorted_of_lt hT]
        | some b => simp [Snapshot.insertSorted_cons_of_eq rfl]
      obtain ⟨snap, hrun, htick, hents⟩ :=
        ih (c := ⟨bs' ++ rest, c.pos + varintLen slot.toNat + 1 + w.encodedLen⟩) hrest rfl htail
          hentries' (fun p hp => by obtain rfl := Option.some.inj hp; exact hafter) (hDslot _) hinsert
      refine ⟨snap, ?_, htick, by simpa using hents⟩
      rw [show n' - n = (n' - (n + 1)) + 1 by omega,
        decodeBodyEntries_succ_present hread hslot (fun p hp => hprev p hp _ (List.mem_cons_self ..))
          hentity, hrun]
      simp [FieldBlock.Writer.length_encoding, Nat.add_assoc]
      omega

/-- The staged entries of the change from `B` to `C`, after their count, decode on top of the
quantized `B` and at any tick to the quantized `C` at that tick. -/
theorem decodeBody_staged {B C : Snapshot} (hk : schema.Bounded) (hBs : B.Settled schema)
    (hCs : C.Settled schema) {cap count : Nat}
    {staged : Buffer} (hstage : (stageEntries schema limits (mergeSlots B.entities C.entities) 0).run
      (Buffer.empty cap) = .ok count staged) (hmax : count ≤ limits.maxEntries) (t : Tick) :
    decodeBody schema (B.quantized schema) (encodeVarint count ++ staged.data) t limits =
      .ok { C.quantized schema with tick := t } := by
  obtain ⟨⟨bs, rfl⟩, -, hcount⟩ := stageEntries_eq_ok hstage
  have hM := mergeSlots_pairwise B.ascending C.ascending
  have hcount32 : count < 2 ^ (32 : Nat) := by
    have := length_le_of_pairwise_slot hM
    omega
  have hentries : ∀ e ∈ mergeSlots B.entities C.entities, B.get? e.1 = e.2.1 ∧
      (e.2.1.isSome ∨ e.2.2.isSome) ∧ ∀ st, e.2.2 = some st → st.Settled schema := by
    intro e he
    refine ⟨(mergeSlots_get B.tick B.ascending C.ascending e he).1, mergeSlots_some _ _ e he,
      fun st hst => ?_⟩
    have hmem : (e.1, st) ∈ C.entities := by
      rw [← mergeSlots_current B.entities C.entities, List.mem_filterMap]
      exact ⟨e, he, by simp [hst]⟩
    exact hCs _ hmem
  have hloop := decodeBodyEntries_stageEntries hk hBs hstage
    (show (⟨bs, 0 + varintLen count⟩ : Cursor).rest = bs ++ [] by simp) hM hentries
    (show ∀ p, (none : Option Nat) = some p → ∀ e ∈ mergeSlots B.entities C.entities,
      p < e.1.toNat from fun p hp => by cases hp)
    (show ∀ x ∈ ([] : List (Slot × EntityState)), ∀ e ∈ mergeSlots B.entities C.entities,
      x.1.toNat < e.1.toNat from fun x hx => by cases hx)
    (show ({ B.quantized schema with tick := t } : Snapshot).entities = [] ++ _ by
      rw [filterMap_mergeSlots_baseline]
      rfl)
  have hread : (Cursor.init (encodeVarint count ++ bs)).readVarU32 =
      .ok (count, ⟨bs, 0 + varintLen count⟩) :=
    Cursor.readVarU32_of_rest rfl hcount32
  obtain ⟨snap, hrun, htick, hents⟩ := hloop
  simp only [Nat.sub_zero, Nat.zero_add, List.nil_append, filterMap_mergeSlots_current] at hrun hents
  -- the snapshot read is the quantized `C` at tick `t`: same tick, same entries
  have hsnap : snap = { C.quantized schema with tick := t } := Snapshot.ext htick hents
  simp only [decodeBody, Buffer.empty, Buffer.appended_data, List.nil_append, hread,
    Except.mapError, bind, Except.bind, Nat.not_lt.mpr hmax, if_false, Nat.zero_add, hrun, hsnap]
  simp [pure, Except.pure]

/-- Delta round trip: the body encoded for the change from `B` to `C` decodes, on top of the
quantized `B` and at any tick, to the quantized `C` at that tick. -/
theorem decodeBody_encodeBody {B C : Snapshot} (hk : schema.Bounded) (hBs : B.Settled schema)
    (hCs : C.Settled schema) {out out' : Buffer}
    {n : Nat} (henc : (encodeBody schema B C limits).run out = .ok n out') (t : Tick) :
    decodeBody schema (B.quantized schema) (out'.data.drop out.data.length) t limits =
      .ok { C.quantized schema with tick := t } := by
  obtain ⟨count, staged, hstage, hmax, -, rfl⟩ := encodeBody_eq_ok henc
  simpa using decodeBody_staged hk hBs hCs hstage hmax t

/-- Three leaves of a unit: hit points, a heading sent as a half-precision float, a name. -/
def unitSchema : Schema :=
  ⟨"unit", [⟨"hp", .u16⟩, ⟨"heading", .float .half⟩, ⟨"name", .str 8⟩]⟩

/-- Two units at slots 3 and 5. -/
def unitsBefore : Snapshot :=
  ⟨4, [(⟨3, by decide⟩, ⟨[.u16 100, .f32 Binary32.zero, .str "ann"]⟩),
    (⟨5, by decide⟩, ⟨[.u16 7, .f32 Binary32.zero, .str "bo"]⟩)], by decide⟩

/-- The unit at slot 3 lost hit points and turned to 1.5, the one at slot 5 is gone, and a new one
stands at slot 9. -/
def unitsAfter : Snapshot :=
  ⟨6, [(⟨3, by decide⟩, ⟨[.u16 90, .f32 ⟨0x3fc00000⟩, .str "ann"]⟩),
    (⟨9, by decide⟩, ⟨[.u16 1, .f32 Binary32.zero, .str ""]⟩)], by decide⟩

theorem decodeBody_encodeBody_units :
    unitSchema.Bounded ∧ unitsBefore.Settled unitSchema ∧ unitsAfter.Settled unitSchema ∧
      (encodeBody unitSchema unitsBefore unitsAfter CodecLimits.standard).run (Buffer.empty 64) =
        .ok 17 ((Buffer.empty 64).appended [3, 3, 1, 3, 3, 90, 0, 0, 62, 5, 0, 9, 1, 3, 1, 1, 0]) ∧
      decodeBody unitSchema (unitsBefore.quantized unitSchema)
          [3, 3, 1, 3, 3, 90, 0, 0, 62, 5, 0, 9, 1, 3, 1, 1, 0] 7 CodecLimits.standard =
        .ok { unitsAfter.quantized unitSchema with tick := 7 } := by
  have hrun : (encodeBody unitSchema unitsBefore unitsAfter CodecLimits.standard).run
      (Buffer.empty 64) =
      .ok 17 ((Buffer.empty 64).appended [3, 3, 1, 3, 3, 90, 0, 0, 62, 5, 0, 9, 1, 3, 1, 1, 0]) := by
    decide +kernel
  exact ⟨by decide, by decide, by decide, hrun,
    decodeBody_encodeBody (by decide) (by decide) (by decide) hrun 7⟩

end EntitySync
