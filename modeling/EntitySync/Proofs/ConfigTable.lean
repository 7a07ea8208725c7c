import EntitySync.Proofs.Frame
import EntitySync.Proofs.CodeGrammar
/-!
# Config-string tables read back

A config-string table is its entry count as a varint and then, for each entry, its index as a
varint and its text NUL-terminated. The writer checks each entry's index against the table size
and its text against the length bound, but it does not check the number of entries; the reader
checks all three.

`config_table_round_trip`: a table the writer wrote is read back as its entries, in order, exactly
when there are no more of them than the table size, and otherwise refused with the count limit;
and whatever the reader accepts has at most that many entries, each with an index inside the
table and a text within the bound, and stops at its last entry: a body with bytes after the last
entry is refused. The writer takes indices as 32-bit numbers, and a body, as every byte string a
program holds, is shorter than the largest machine size.
-/

namespace EntitySync

namespace Cursor

variable {c c' : Cursor}

theorem readString_length_lt {s : String} {maxLen : Nat} (h : c.readString maxLen = .ok (s, c')) :
    (encodeUtf8 s).length < maxSize := by
  unfold readString at h
  dsimp only at h
  split at h
  · split_ifs at h
  next nul hfind =>
  split at h
  · next s' hs =>
    cases h
    obtain ⟨hlt, -, -⟩ := List.findIdx?_eq_some_iff_getElem.mp hfind
    rw [encodeUtf8_of_stringOfUtf8 hs]
    simp only [List.length_take, satAdd] at hlt ⊢
    omega
  · cases h

theorem readVarU32_append {v : Nat} (h : c.readVarU32 = .ok (v, c')) (extra : Bytes) :
    (⟨c.rest ++ extra, c.pos⟩ : Cursor).readVarU32 = .ok (v, ⟨c'.rest ++ extra, c'.pos⟩) := by
  obtain ⟨vb, hv, hlen, hlt, hrest, hpos⟩ := readVarU32_eq_ok_iff.mp h
  exact readVarU32_eq_ok_iff.mpr ⟨vb, hv, hlen, hlt, by simp [hrest], hpos⟩

theorem readString_append {s : String} {maxLen : Nat} (h : c.readString maxLen = .ok (s, c'))
    (extra : Bytes) :
    (⟨c.rest ++ extra, c.pos⟩ : Cursor).readString maxLen = .ok (s, ⟨c'.rest ++ extra, c'.pos⟩) := by
  obtain ⟨hrest, hpos, hlen, hnul⟩ := readString_eq_ok h
  have hr : (⟨c.rest ++ extra, c.pos⟩ : Cursor).rest = encodeUtf8 s ++ 0 :: (c'.rest ++ extra) := by
    simp [hrest]
  rw [readString_of_rest hr hlen hnul (readString_length_lt h), hpos]

end Cursor

section Reading

variable {limits : FrameLimits} {n : Nat} {c c' : Cursor} {E : List ConfigEntry}

theorem decodeConfigEntries_succ_eq_ok (h : decodeConfigEntries limits (n + 1) c = .ok (E, c')) :
    ∃ index text c₁ c₂ E', c.readVarU32 = .ok (index, c₁) ∧ index < limits.maxConfigStrings ∧
      c₁.readString limits.maxConfigStringLen = .ok (text, c₂) ∧
      decodeConfigEntries limits n c₂ = .ok (E', c') ∧ E = (index, text) :: E' := by
  simp only [decodeConfigEntries] at h
  obtain ⟨⟨index, c₁⟩, h₁, h⟩ := Except.bind_eq_ok.mp h
  dsimp only at h
  split at h
  · simp [throw, throwThe, MonadExceptOf.throw, bind, Except.bind] at h
  next hlt =>
  obtain ⟨⟨text, c₂⟩, h₂, h⟩ := Except.bind_eq_ok.mp h
  obtain ⟨⟨E', c₃⟩, h₃, h⟩ := Except.bind_eq_ok.mp h
  simp only [pure, Except.pure, Except.ok.injEq, Prod.mk.injEq] at h
  obtain ⟨rfl, rfl⟩ := h
  exact ⟨index, text, c₁, c₂, E', Except.mapError_eq_ok.mp h₁, Nat.lt_of_not_le hlt,
    Except.mapError_eq_ok.mp h₂, h₃, rfl⟩

theorem decodeConfigEntries_succ_of {index : Nat} {text : String} {c₁ c₂ : Cursor}
    (h₁ : c.readVarU32 = .ok (index, c₁)) (hidx : index < limits.maxConfigStrings)
    (h₂ : c₁.readString limits.maxConfigStringLen = .ok (text, c₂)) :
    decodeConfigEntries limits (n + 1) c =
      (decodeConfigEntries limits n c₂).map fun p => ((index, text) :: p.1, p.2) := by
  simp only [decodeConfigEntries, h₁, h₂, Except.mapError, bind, Except.bind,
    if_neg (Nat.not_le.mpr hidx), pure, Except.pure]
  cases decodeConfigEntries limits n c₂ <;> rfl

theorem decodeConfigEntries_eq_ok (h : decodeConfigEntries limits n c = .ok (E, c')) :
    E.length = n ∧ ∀ e ∈ E, e.Writable limits := by
  induction n generalizing c E with
  | zero =>
    simp only [decodeConfigEntries, Except.ok.injEq, Prod.mk.injEq] at h
    obtain ⟨rfl, -⟩ := h
    simp
  | succ n ih =>
    obtain ⟨index, text, c₁, c₂, E', -, hidx, h₂, h₃, rfl⟩ := decodeConfigEntries_succ_eq_ok h
    obtain ⟨-, -, hlen, hnul⟩ := Cursor.readString_eq_ok h₂
    obtain ⟨hcount, hall⟩ := ih h₃
    refine ⟨by simp [hcount], ?_⟩
    intro e he
    rcases List.mem_cons.mp he with rfl | he
    · exact ⟨hidx, hlen, hnul⟩
    · exact hall e he

theorem decodeConfigEntries_append (h : decodeConfigEntries limits n c = .ok (E, c'))
    (extra : Bytes) :
    decodeConfigEntries limits n ⟨c.rest ++ extra, c.pos⟩ = .ok (E, ⟨c'.rest ++ extra, c'.pos⟩) := by
  induction n generalizing c E with
  | zero =>
    simp only [decodeConfigEntries, Except.ok.injEq, Prod.mk.injEq] at h
    obtain ⟨rfl, rfl⟩ := h
    rfl
  | succ n ih =>
    obtain ⟨index, text, c₁, c₂, E', h₁, hidx, h₂, h₃, rfl⟩ := decodeConfigEntries_succ_eq_ok h
    rw [decodeConfigEntries_succ_of (Cursor.readVarU32_append h₁ extra) hidx
      (Cursor.readString_append h₂ extra), ih h₃]
    rfl

theorem decodeConfigStrings_eq_ok {body : Bytes} (h : decodeConfigStrings body limits = .ok E) :
    ∃ c c', (Cursor.init body).readVarU32 = .ok (E.length, c) ∧
      E.length ≤ limits.maxConfigStrings ∧ decodeConfigEntries limits E.length c = .ok (E, c') ∧
      c'.rest = [] := by
  unfold decodeConfigStrings at h
  -- each refusal of the reader, in turn, contradicts `h`
  cases h₁ : (Cursor.init body).readVarU32 with
  | error e => simp [h₁, Except.mapError, bind, Except.bind] at h
  | ok p =>
    obtain ⟨count, c⟩ := p
    by_cases hle : limits.maxConfigStrings < count
    · simp [h₁, hle, Except.mapError, bind, Except.bind, throw, throwThe, MonadExceptOf.throw] at h
    cases h₂ : decodeConfigEntries limits count c with
    | error e => simp [h₁, hle, h₂, Except.mapError, bind, Except.bind] at h
    | ok q =>
      obtain ⟨E', c'⟩ := q
      by_cases hempty : c'.rest = []
      · simp [h₁, hle, h₂, hempty, Except.mapError, bind, Except.bind, pure, Except.pure] at h
        subst h
        obtain ⟨hlen, -⟩ := decodeConfigEntries_eq_ok h₂
        subst hlen
        exact ⟨c, c', rfl, Nat.le_of_not_lt hle, h₂, hempty⟩
      · simp [h₁, hle, h₂, hempty, Except.mapError, bind, Except.bind, throw, throwThe,
          MonadExceptOf.throw] at h

theorem decodeConfigStrings_append {body : Bytes} (h : decodeConfigStrings body limits = .ok E)
    (extra : Bytes) :
    decodeConfigStrings (body ++ extra) limits =
      if extra = [] then .ok E else .error (.framing (.trailingBytes .configStrings extra.length)) := by
  obtain ⟨c, c', h₁, hle, h₂, hrest⟩ := decodeConfigStrings_eq_ok h
  have h₁' : (Cursor.init (body ++ extra)).readVarU32 = .ok (E.length, ⟨c.rest ++ extra, c.pos⟩) :=
    Cursor.readVarU32_append h₁ extra
  have h₂' := decodeConfigEntries_append h₂ extra
  rw [hrest, List.nil_append] at h₂'
  by_cases hextra : extra = []
  · subst hextra
    simpa using h
  · unfold decodeConfigStrings
    simp [h₁', h₂', Nat.not_lt.mpr hle, hextra, Cursor.remaining, Except.mapError, bind,
      Except.bind, throw, throwThe, MonadExceptOf.throw]

end Reading

/-- A config-string table reads back as its entries exactly when they are within the table size,
and the reader accepts no other bytes. -/
theorem config_table_round_trip {limits : FrameLimits} {E : List ConfigEntry} {out : Buffer}
    {b : Bytes} (hidx : ∀ e ∈ E, e.1 < 2 ^ (32 : Nat)) (hsize : b.length < maxSize)
    (henc : encodeConfigStrings E limits out = (out.appended b, .ok ())) :
    decodeConfigStrings b limits =
      (if E.length ≤ limits.maxConfigStrings then .ok E
      else .error (.limitExceeded .configStringCount limits.maxConfigStrings E.length)) ∧
    ∀ body E', decodeConfigStrings body limits = .ok E' →
      E'.length ≤ limits.maxConfigStrings ∧ (∀ e ∈ E', e.Writable limits) ∧
      ∀ extra, extra ≠ [] → decodeConfigStrings (body ++ extra) limits =
        .error (.framing (.trailingBytes .configStrings extra.length)) := by
  obtain ⟨h32, hb, -, hall⟩ := encodeConfigStrings_eq_ok henc
  have hbody : b = encodeVarint E.length ++ E.flatMap ConfigEntry.encoding := Buffer.appended_inj hb
  have hentries : (E.flatMap ConfigEntry.encoding).length < maxSize := by
    rw [hbody, List.length_append] at hsize
    omega
  refine ⟨hbody ▸ decodeConfigStrings_encoding h32 (fun e he => ⟨hall e he, hidx e he⟩) hentries,
    fun body E' h => ?_⟩
  obtain ⟨c, c', -, hle, h₂, -⟩ := decodeConfigStrings_eq_ok h
  refine ⟨hle, (decodeConfigEntries_eq_ok h₂).2, fun extra hextra => ?_⟩
  rw [decodeConfigStrings_append h extra, if_neg hextra]

/-- The table of a map name at index 0 and an empty string at index 33, under the testing
limits. -/
theorem config_table_round_trip_maps :
    let E : List ConfigEntry := [(0, "maps/e1m1.bsp"), (33, "")]
    let b : Bytes := [2, 0, 109, 97, 112, 115, 47, 101, 49, 109, 49, 46, 98, 115, 112, 0, 33, 0]
    (∀ e ∈ E, e.1 < 2 ^ (32 : Nat)) ∧ b.length < maxSize ∧
    encodeConfigStrings E FrameLimits.testing (Buffer.empty 128) =
      ((Buffer.empty 128).appended b, .ok ()) ∧
    (decodeConfigStrings b FrameLimits.testing =
      (if E.length ≤ FrameLimits.testing.maxConfigStrings then .ok E
      else .error (.limitExceeded .configStringCount FrameLimits.testing.maxConfigStrings E.length)) ∧
    ∀ body E', decodeConfigStrings body FrameLimits.testing = .ok E' →
      E'.length ≤ FrameLimits.testing.maxConfigStrings ∧
      (∀ e ∈ E', e.Writable FrameLimits.testing) ∧
      ∀ extra, extra ≠ [] → decodeConfigStrings (body ++ extra) FrameLimits.testing =
        .error (.framing (.trailingBytes .configStrings extra.length))) :=
  have hidx : ∀ e ∈ ([(0, "maps/e1m1.bsp"), (33, "")] : List ConfigEntry), e.1 < 2 ^ (32 : Nat) := by
    decide
  have hsize : ([2, 0, 109, 97, 112, 115, 47, 101, 49, 109, 49, 46, 98, 115, 112, 0, 33, 0] :
      Bytes).length < maxSize := by decide
  have henc : encodeConfigStrings [(0, "maps/e1m1.bsp"), (33, "")] FrameLimits.testing
      (Buffer.empty 128) = ((Buffer.empty 128).appended
        [2, 0, 109, 97, 112, 115, 47, 101, 49, 109, 49, 46, 98, 115, 112, 0, 33, 0], .ok ()) := by
    decide +kernel
  ⟨hidx, hsize, henc, config_table_round_trip hidx hsize henc⟩

end EntitySync
