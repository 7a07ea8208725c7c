import EntitySync.Proofs.Frame
/-!
# What the frame writers leave in their output

The header, section and frame writers check the room for all they write before writing any of
it, so each either fails leaving its output as it was or succeeds having appended to it, the
section and frame writers exactly as many bytes as they report.

The config-string writer is different: it writes the entry count and then the entries one by one,
checking each entry's index and text as it comes to it. An entry it refuses stops it with the
count and the entries before it already written, and a text it refuses after writing that
entry's index leaves the index written too. What it leaves is always its output followed by a
beginning of the table's bytes (`encodeConfigStrings_prefix`), the whole of them when it succeeds.
It leaves its output as it was only when it refuses the count itself
(`encodeConfigStrings_untouched_iff`): a single entry with an index outside the table already
leaves the count behind (`encodeConfigStrings_leaves_count`).
-/

namespace EntitySync

open WriteM

theorem Header.write_appends (h : Header) : Appends h.write := by
  intro b
  by_cases hfit : b.Fits headerSize
  · exact .inr ⟨(), h.encoding, h.write_writes b (by rwa [Header.length_encoding])⟩
  · obtain ⟨e, he⟩ := ensureFree_run_of_not_fits hfit
    exact .inl ⟨e, run_bind_error he _⟩

theorem encodeSection_appendsCounted (tag : SectionTag) (body : Bytes) :
    AppendsCounted (encodeSection tag body) := by
  intro b
  by_cases hlen : body.length < 2 ^ (32 : Nat)
  · by_cases hfit : b.Fits (sectionLen body.length)
    · refine .inr ⟨Section.encoding ⟨tag, body⟩, ?_⟩
      rw [Section.length_encoding]
      exact encodeSection_writes hlen b (by rwa [Section.length_encoding])
    · obtain ⟨e, he⟩ := ensureFree_adaptExcept_run_of_not_fits hfit FrameEncodeError.overflow
      refine .inl ⟨e, ?_⟩
      simp only [encodeSection, if_neg (Nat.not_le.mpr hlen)]
      exact run_bind_error he _
  · refine .inl ⟨.lengthOverflow body.length, ?_⟩
    simp only [encodeSection, if_pos (Nat.le_of_not_lt hlen)]
    rfl

/-- Config entries are written one by one: what the writer leaves after its output is a
beginning of the entries' bytes. -/
theorem encodeConfigEntries_prefix (limits : FrameLimits) (L : List ConfigEntry) (out : Buffer) :
    ∃ bs, (encodeConfigEntries limits L out).1 = out.appended bs ∧
      bs <+: L.flatMap ConfigEntry.encoding := by
  induction L generalizing out with
  | nil => exact ⟨[], by simp [encodeConfigEntries], List.nil_prefix⟩
  | cons e L ih =>
    obtain ⟨index, text⟩ := e
    simp only [encodeConfigEntries]
    split
    · exact ⟨[], by simp, List.nil_prefix⟩
    · split
      · exact ⟨[], by simp, List.nil_prefix⟩
      · next out₁ h₁ =>
        obtain ⟨-, rfl⟩ := Buffer.write_eq_ok h₁
        split
        · -- a refused text leaves the entry's index behind
          refine ⟨encodeVarint index, rfl, ?_⟩
          simp only [List.flatMap_cons, ConfigEntry.encoding, List.append_assoc]
          exact List.prefix_append _ _
        · next out₂ h₂ =>
          obtain ⟨-, -, -, rfl⟩ := Buffer.writeString_eq_ok h₂
          obtain ⟨bs, hbs, hpre⟩ :=
            ih ((out.appended (encodeVarint index)).appended (encodeUtf8 text ++ [0]))
          refine ⟨encodeVarint index ++ (encodeUtf8 text ++ [0]) ++ bs, by rw [hbs]; simp, ?_⟩
          have hpre' := (List.prefix_append_right_inj
            (encodeVarint index ++ (encodeUtf8 text ++ [0]))).mpr hpre
          simpa [ConfigEntry.encoding] using hpre'

/-- What the config-string writer leaves after its output is a beginning of the table's bytes,
and all of them when it succeeds. -/
theorem encodeConfigStrings_prefix (E : List ConfigEntry) (limits : FrameLimits) (out : Buffer) :
    ∃ bs, (encodeConfigStrings E limits out).1 = out.appended bs ∧
      bs <+: encodeVarint E.length ++ E.flatMap ConfigEntry.encoding ∧
      ((encodeConfigStrings E limits out).2 = .ok () →
        bs = encodeVarint E.length ++ E.flatMap ConfigEntry.encoding) := by
  have hok : (encodeConfigStrings E limits out).2 = .ok () →
      (encodeConfigStrings E limits out).1 =
        out.appended (encodeVarint E.length ++ E.flatMap ConfigEntry.encoding) := fun h =>
    (encodeConfigStrings_eq_ok (Prod.ext rfl h : encodeConfigStrings E limits out =
      ((encodeConfigStrings E limits out).1, .ok ()))).2.1
  obtain ⟨bs, hbs, hpre⟩ : ∃ bs, (encodeConfigStrings E limits out).1 = out.appended bs ∧
      bs <+: encodeVarint E.length ++ E.flatMap ConfigEntry.encoding := by
    unfold encodeConfigStrings
    split
    · exact ⟨[], by simp, List.nil_prefix⟩
    · split
      · exact ⟨[], by simp, List.nil_prefix⟩
      · next out₁ h₁ =>
        obtain ⟨-, rfl⟩ := Buffer.write_eq_ok h₁
        obtain ⟨bs, hbs, hpre⟩ :=
          encodeConfigEntries_prefix limits E (out.appended (encodeVarint E.length))
        exact ⟨encodeVarint E.length ++ bs, by rw [hbs]; simp,
          List.prefix_append_right_inj _ |>.mpr hpre⟩
  exact ⟨bs, hbs, hpre, fun h => Buffer.appended_inj (hbs.symm.trans (hok h))⟩

/-- The config-string writer leaves its output as it was exactly when it refuses the count:
once the count is written, every outcome has changed the output. -/
theorem encodeConfigStrings_untouched_iff (E : List ConfigEntry) (limits : FrameLimits)
    (out : Buffer) :
    (encodeConfigStrings E limits out).1 = out ↔
      2 ^ (32 : Nat) ≤ E.length ∨ ¬ out.Fits (varintLen E.length) := by
  unfold encodeConfigStrings
  by_cases h32 : 2 ^ (32 : Nat) ≤ E.length
  · simp [h32]
  rw [if_neg h32, Buffer.writeVarint]
  by_cases hfit : out.Fits (varintLen E.length)
  · rw [Buffer.write_of_fits (by rwa [length_encodeVarint])]
    simp only [h32, hfit, not_true, or_self, iff_false]
    obtain ⟨bs, hbs, -⟩ :=
      encodeConfigEntries_prefix limits E (out.appended (encodeVarint E.length))
    rw [hbs, Buffer.appended_appended]
    intro heq
    have hnil := Buffer.appended_inj (heq.trans Buffer.appended_nil.symm)
    have hlen := congrArg List.length hnil
    simp only [List.length_append, length_encodeVarint, List.length_nil] at hlen
    have := varintLen_pos E.length
    omega
  · have hfit' : ¬ out.Fits (encodeVarint E.length).length := by rwa [length_encodeVarint]
    simp [Buffer.write_of_not_fits hfit', hfit]

/-- A table whose only entry has an index outside the table is refused with the count already
written. -/
theorem encodeConfigStrings_leaves_count :
    encodeConfigStrings [(64, "x")] FrameLimits.testing (Buffer.empty 16) =
      ((Buffer.empty 16).appended [1], .error (.configStringIndex 64 64)) := by
  decide +kernel

/-- The header, section and frame writers are all-or-nothing; the config-string writer appends a
beginning of the table's bytes and leaves its output as it was only when it refuses the count. -/
theorem wire_writers_append (E : List ConfigEntry) (limits : FrameLimits) (out : Buffer) :
    (∀ h : Header, Appends h.write) ∧
    (∀ tag body, AppendsCounted (encodeSection tag body)) ∧
    (∀ h ss, AppendsCounted (encodeFrame h ss)) ∧
    (∃ bs, (encodeConfigStrings E limits out).1 = out.appended bs ∧
      bs <+: encodeVarint E.length ++ E.flatMap ConfigEntry.encoding ∧
      ((encodeConfigStrings E limits out).2 = .ok () →
        bs = encodeVarint E.length ++ E.flatMap ConfigEntry.encoding)) ∧
    ((encodeConfigStrings E limits out).1 = out ↔
      2 ^ (32 : Nat) ≤ E.length ∨ ¬ out.Fits (varintLen E.length)) :=
  ⟨Header.write_appends, encodeSection_appendsCounted, encodeFrame_appendsCounted,
    encodeConfigStrings_prefix E limits out, encodeConfigStrings_untouched_iff E limits out⟩

end EntitySync
