import EntitySync.Proofs.MetadataRecord
import EntitySync.Cli.Run
/-!
# Rewriting a recording's metadata

`set-meta` rewrites the metadata of a recording in place. The file is read, its metadata record
read from the start, and the file replaced by the record written for the new metadata in a block
of the old block's size, followed by every byte that followed the old record. So the file keeps
its length and its records byte for byte, and reads back with the new metadata; a rewrite that
cannot be made, because the new entries overflow the block, changes no file
(`metadata_rewrite_splices`).

The new metadata is the old with the assignments made in turn, and `assignedValue` says what a
key then holds: the value of the last assignment to it, nothing if that value is empty, and its
old value if no assignment names it. An argument is an assignment when it is a nonempty key
without `=`, then `=`, then the value.

The rewrite is proved for every file system that replaces files atomically
(`FileSystem.Atomic`): reading changes nothing, a replacement that fails changes nothing, and one
that succeeds leaves the file holding the new bytes and every other file as it was. The files
held in memory are one (`MemoryFiles.system_atomic`): there a replaced file is `overwrite`, the
entries stored at its place holding the new bytes, so a path reads them exactly when it leads to
that place (`read_overwrite`), and every other path reads what it did.
-/

namespace EntitySync

/-! ## Metadata after assignments -/

namespace DemoMetadata

variable {m m' : DemoMetadata} {k v : String}

theorem get?_set (h : m.set k v = .ok m') (key : String) :
    m'.get? key = if key = k then some v else m.get? key := by
  have hok := entryOk_of_set h
  unfold set at h
  rw [dif_neg (by rw [refused_eq_false hok]; exact Bool.false_ne_true)] at h
  split_ifs at h with hany
  · -- the key is replaced in place, and no entry changes its key
    rw [Except.ok.injEq] at h
    subst h
    have hkeys : (fun x : String × String => (if x.1 = k then (x.1, v) else x).1 == key) =
        fun x => x.1 == key := by
      funext x
      split <;> rfl
    simp only [get?, List.find?_map, Function.comp_def, beq_iff_eq, hkeys]
    by_cases hkey : key = k
    · subst hkey
      obtain ⟨x, hx⟩ : ∃ x, m.entries.find? (·.1 == key) = some x := by
        exact Option.isSome_iff_exists.mp (List.find?_isSome.mpr (List.any_eq_true.mp hany))
      have hxk : x.1 = key := by simpa using List.find?_some hx
      simp [hx, hxk]
    · cases hx : m.entries.find? (·.1 == key) with
      | none => simp [hkey]
      | some x =>
        have hxk : x.1 = key := by simpa using List.find?_some hx
        simp [hkey, hxk]
  · -- the key is new and goes last
    rw [Except.ok.injEq] at h
    subst h
    simp only [get?, List.find?_append]
    by_cases hkey : key = k
    · subst hkey
      have hnone : m.entries.find? (·.1 == key) = none :=
        List.find?_eq_none.mpr fun x hx hxk => hany (List.any_eq_true.mpr ⟨x, hx, hxk⟩)
      simp [hnone]
    · simp [hkey, Ne.symm hkey]

theorem get?_remove (k key : String) :
    (m.remove k).2.get? key = if key = k then none else m.get? key := by
  simp only [remove, get?, List.find?_filter]
  by_cases hkey : key = k
  · subst hkey
    simp
  · have hpred : (fun x : String × String => decide ((x.1 != k) = true ∧ (x.1 == key) = true)) =
        fun x => x.1 == key := by
      funext x
      by_cases hx : x.1 = key <;> simp [hx, hkey]
    rw [hpred, if_neg hkey]

end DemoMetadata

/-- What a key holds after assignments made in turn: the value of the last assignment to it, or
none when that value is empty; a key that no assignment names keeps what it held. -/
def assignedValue (m : DemoMetadata) (as : List (String × String)) (key : String) :
    Option String :=
  match as.reverse.find? (·.1 == key) with
  | some (_, v) => if v.isEmpty then none else some v
  | none => m.get? key

theorem assignedValue_cons {m m₁ : DemoMetadata} {k v key : String} (as : List (String × String))
    (h : m₁.get? key = if key = k then (if v.isEmpty then none else some v) else m.get? key) :
    assignedValue m ((k, v) :: as) key = assignedValue m₁ as key := by
  unfold assignedValue
  rw [List.reverse_cons, List.find?_append]
  cases as.reverse.find? (·.1 == key) with
  | some e => rfl
  | none =>
    by_cases hkey : key = k
    · subst hkey
      simp [h]
    · simp [h, hkey, Ne.symm hkey]

theorem get?_applyAssignments {m m' : DemoMetadata} {as : List (String × String)}
    (h : applyAssignments m as = (m', .ok ())) (key : String) :
    m'.get? key = assignedValue m as key := by
  induction as generalizing m with
  | nil =>
    cases h
    rfl
  | cons a as ih =>
    obtain ⟨k, v⟩ := a
    rw [applyAssignments] at h
    split_ifs at h with hv
    · rw [ih h, assignedValue_cons as]
      rw [DemoMetadata.get?_remove, hv]
      rfl
    · split at h
      · next m₁ hset =>
        rw [ih h, assignedValue_cons as]
        rw [DemoMetadata.get?_set hset, if_neg hv]
      · simp at h

/-- An argument reads as the assignment of `v` to `k` exactly when it is the nonempty key `k`,
which holds no `=`, then `=`, then `v`, which may hold more. -/
theorem parseAssignment_eq_ok {arg k v : String} :
    parseAssignment arg = .ok (k, v) ↔ k ≠ "" ∧ '=' ∉ k.toList ∧ arg = k ++ "=" ++ v := by
  constructor
  · intro h
    unfold parseAssignment at h
    dsimp only at h
    split at h
    · next i hi =>
      split_ifs at h with h0
      simp only [Except.ok.injEq, Prod.mk.injEq] at h
      obtain ⟨rfl, rfl⟩ := h
      obtain ⟨hlt, hsep, hbefore⟩ := List.findIdx?_eq_some_iff_getElem.mp hi
      refine ⟨?_, ?_, ?_⟩
      · intro hk
        have hnil : List.take i arg.toList = [] := by simpa using congrArg String.toList hk
        rcases List.take_eq_nil_iff.mp hnil with h | h
        · exact h0 h
        · simp [h] at hlt
      · rw [String.toList_ofList]
        intro hmem
        obtain ⟨j, hj, hcj⟩ := List.getElem_of_mem hmem
        simp only [List.length_take] at hj
        have := hbefore j (by omega)
        simp_all
      · rw [← String.toList_inj]
        have hc : arg.toList[i] = '=' := by simpa using hsep
        conv_lhs => rw [← List.take_append_drop i arg.toList, List.drop_eq_getElem_cons hlt, hc]
        simp
    · cases h
  · rintro ⟨hk, hkeq, rfl⟩
    have hsep : ("=" : String).toList = ['='] := rfl
    have hfind : (k ++ "=" ++ v).toList.findIdx? (· == '=') = some k.toList.length := by
      have hnone : k.toList.findIdx? (· == '=') = none :=
        List.findIdx?_eq_none_iff.mpr fun x hx => by
          simpa using fun hxe : x = '=' => hkeq (hxe ▸ hx)
      simp [String.toList_append, List.findIdx?_append, List.findIdx?_cons, hnone, hsep]
    have hlen : k.toList.length ≠ 0 := by simpa [String.toList_inj] using hk
    unfold parseAssignment
    dsimp only
    simp only [hfind, hlen, ↓reduceIte]
    simp [String.toList_append, hsep]

/-! ## File systems that replace atomically -/

/-- What rewriting a file needs of a file system acting on a state `σ`, where `contents s p` is
what the path `p` reads in the state `s` and `place s p` the file it names, if any: reading
changes nothing, a replacement that fails changes nothing, and one that succeeds on a file leaves
it holding the new bytes and every path that names another file reading as it did. -/
structure FileSystem.Atomic {σ ι : Type} (sys : FileSystem (StateM σ))
    (contents : σ → String → Except FileError Bytes) (place : σ → String → Option ι) : Prop where
  read : ∀ s p, (sys.read p).run s = (contents s p, s)
  replace_error : ∀ s p bs e s', (sys.replace p bs).run s = (.error e, s') → s' = s
  replace_ok : ∀ s p bs F s', contents s p = .ok F → (sys.replace p bs).run s = (.ok (), s') →
    contents s' p = .ok bs ∧ ∀ q, place s q ≠ place s p → contents s' q = contents s q

namespace FileSystem.Atomic

variable {σ ι : Type} {sys : FileSystem (StateM σ)} {contents : σ → String → Except FileError Bytes}
  {place : σ → String → Option ι}

theorem read_eq (h : sys.Atomic contents place) (p : String) :
    sys.read p = (fun s => contents s p) <$> (get : StateM σ σ) :=
  StateT.ext fun s => h.read s p

/-- A rewrite of the metadata of the recording `F` at `path` replaces the file with what
`replaceMetadata` makes of it, unless that is refused. -/
theorem rewriteMetadata_run (h : sys.Atomic contents place) {s : σ} {path : String} {F : Bytes}
    (hfile : contents s path = .ok F) (m : DemoMetadata) (config : DemoConfig) :
    (CommandLine.rewriteMetadata sys path m config).run s =
      match replaceMetadata F m config with
      | .error e => (.error e, s)
      | .ok out => Prod.map (Except.mapError .file) id ((sys.replace path out).run s) := by
  simp [CommandLine.rewriteMetadata, h.read_eq, hfile]
  cases replaceMetadata F m config with
  | error e => rfl
  | ok out => rfl

/-- A replacement of a file fails changing nothing, or succeeds leaving the file holding the new
bytes and every path that names another file reading as it did. -/
theorem replace_cases (h : sys.Atomic contents place) {s s' : σ} {p : String} {bs F : Bytes}
    {r : Except FileError Unit} (hF : contents s p = .ok F) (hrun : (sys.replace p bs).run s = (r, s')) :
    (∃ e, r = .error e ∧ s' = s) ∨
      (r = .ok () ∧ contents s' p = .ok bs ∧ ∀ q, place s q ≠ place s p → contents s' q = contents s q) := by
  rcases r with e | ⟨⟩
  · exact .inl ⟨e, rfl, h.replace_error _ _ _ _ _ hrun⟩
  · exact .inr ⟨rfl, h.replace_ok _ _ _ _ _ hF hrun⟩

end FileSystem.Atomic

/-! ## Replacing a file in memory -/

/-- The entry, with the file at `place` holding `bs` if it is that file. -/
def PathEntry.overwrite (place : List String) (bs : Bytes) : PathEntry → PathEntry
  | .file here old => .file here (if here = place then bs else old)
  | e => e

namespace MemoryFiles

variable {fs : MemoryFiles} {place : List String} {bs : Bytes}

/-- The files, with those stored at `place` holding `bs`. -/
def overwrite (fs : MemoryFiles) (place : List String) (bs : Bytes) : MemoryFiles :=
  ⟨fs.files.map fun (q, old) => if pathComponents q == place then (q, bs) else (q, old)⟩

/-- The place of the file a path names, if it names one. -/
def placeOf? (fs : MemoryFiles) (p : String) : Option (List String) :=
  match fs.lookup p with
  | .file place _ => some place
  | _ => none

theorem fileAt?_overwrite (cs : List String) :
    (fs.overwrite place bs).fileAt? cs =
      (fs.fileAt? cs).map fun old => if cs = place then bs else old := by
  simp only [overwrite, fileAt?, List.find?_map, Function.comp_def, Option.map_map,
    apply_ite Prod.fst, apply_ite Prod.snd, ite_self]
  cases hx : fs.files.find? (fun x => pathComponents x.1 == cs) with
  | none => rfl
  | some x =>
    have hcs : pathComponents x.1 = cs := by simpa using List.find?_some hx
    simp [hcs]

theorem hasBelow_overwrite (dir : List String) :
    (fs.overwrite place bs).hasBelow dir = fs.hasBelow dir := by
  simp only [overwrite, hasBelow, List.any_map, Function.comp_def, apply_ite Prod.fst, ite_self]

theorem walk_overwrite (dir : Option (List String)) (cs : List String) :
    (fs.overwrite place bs).walk dir cs = (fs.walk dir cs).overwrite place bs := by
  induction cs generalizing dir with
  | nil => rfl
  | cons c rest ih =>
    simp only [walk]
    by_cases hstay : (c.isEmpty || c == ".") = true
    · simp only [hstay, ↓reduceIte]
      exact ih dir
    by_cases hup : (c == "..") = true
    · simp only [hstay, hup, Bool.false_eq_true, ↓reduceIte]
      cases dir <;> exact ih _
    -- a name: the overwritten files lie at the same places, and only their bytes change
    simp only [hstay, hup, Bool.false_eq_true, ↓reduceIte]
    cases dir with
    | none => rfl
    | some d =>
      simp only [fileAt?_overwrite, hasBelow_overwrite]
      cases fs.fileAt? (d ++ [c]) with
      | some old => by_cases hr : rest.isEmpty <;> simp [hr, PathEntry.overwrite]
      | none => by_cases hb : fs.hasBelow (d ++ [c]) <;> simp [hb, ih, PathEntry.overwrite]

theorem lookup_overwrite (p : String) :
    (fs.overwrite place bs).lookup p = (fs.lookup p).overwrite place bs := by
  unfold lookup
  split_ifs
  · rfl
  · exact walk_overwrite _ _

/-- After the file at `place` is overwritten, a path reads the new bytes when it names that file,
and what it read before otherwise. -/
theorem read_overwrite (p : String) :
    (fs.overwrite place bs).read p = if fs.placeOf? p = some place then .ok bs else fs.read p := by
  obtain ⟨e, hl⟩ : ∃ e, fs.lookup p = e := ⟨_, rfl⟩
  simp only [read, placeOf?, lookup_overwrite, hl]
  cases e with
  | file here old => by_cases h : here = place <;> simp [h, PathEntry.overwrite]
  | _ => rfl

theorem lookup_of_read_eq_ok {p : String} {F : Bytes} (h : fs.read p = .ok F) :
    ∃ place, fs.lookup p = .file place F := by
  unfold read at h
  split at h <;> cases h
  exact ⟨_, ‹_›⟩

theorem replace_of_lookup {p : String} {old : Bytes} (h : fs.lookup p = .file place old) (bs : Bytes) :
    fs.replace p bs = .ok (fs.overwrite place bs) := by
  rw [replace, h]
  rfl

theorem system_read (p : String) :
    system.read p = (fun fs => fs.read p) <$> (get : StateM MemoryFiles MemoryFiles) := rfl

theorem system_replace_run (p : String) (bs : Bytes) (fs : MemoryFiles) :
    (system.replace p bs).run fs =
      match fs.replace p bs with
      | .ok fs' => (.ok (), fs')
      | .error e => (.error e, fs) := by
  cases h : fs.replace p bs <;> simp [system, h] <;> rfl

theorem system_atomic : system.Atomic read placeOf? where
  read _ _ := rfl
  replace_error fs p bs e fs' h := by
    rw [system_replace_run] at h
    split at h
    · cases h
    · exact (Prod.mk.inj h).2.symm
  replace_ok fs p bs F fs' hF h := by
    obtain ⟨place, hl⟩ := lookup_of_read_eq_ok hF
    rw [system_replace_run, replace_of_lookup hl] at h
    obtain rfl := (Prod.mk.inj h).2
    have hplace : fs.placeOf? p = some place := by simp [placeOf?, hl]
    refine ⟨by rw [read_overwrite, if_pos hplace], fun q hq => ?_⟩
    rw [read_overwrite, if_neg (hplace ▸ hq)]

end MemoryFiles

/-! ## The splice -/

/-- A metadata record read from the start of a file is its first `metadataRecordLen M` bytes, and
the read stands after them. -/
theorem rest_of_readMetadataRecord {limit M : Nat} {F : Bytes} {m₀ : DemoMetadata} {src : Source}
    (h : (readMetadataRecord limit 0).run (Source.init F) = (.ok (m₀, M), src)) :
    metadataRecordLen M ≤ F.length ∧ src.rest = F.drop (metadataRecordLen M) := by
  obtain ⟨-, -, used, blob, -, hlen, hrest, -, -⟩ := readMetadataRecord_eq_ok h
  have hL : metadataRecordLen M = ((MetadataHeader.layout M used 0).encoding ++ blob).length := by
    simp [hlen, metadataRecordLen, recordPrefixSize, metadataHeaderSize, Nat.add_comm]
  simp only [Source.init] at hrest
  rw [hrest, hL]
  exact ⟨by simp, List.drop_left.symm⟩

theorem length_of_writeMetadataRecord {m : DemoMetadata} {size : Nat} {head : Bytes}
    (hsize : size < 2 ^ (63 : Nat)) (h : writeMetadataRecord m size 0 = .ok head) :
    head.length = metadataRecordLen size := by
  obtain ⟨hfit, hwide, -⟩ := writeMetadataRecord_eq_ok_inv hsize h
  rw [writeMetadataRecord_eq_ok hfit hwide, Except.ok.injEq] at h
  rw [← h, length_metadataRecord hfit]

/-- A file that starts with the record written for some metadata reads back as that metadata,
under any limit its block fits. -/
theorem readMetadata_of_writeMetadataRecord {m : DemoMetadata} {size : Nat} {head : Bytes}
    {config : DemoConfig} (hsize : size < 2 ^ (63 : Nat))
    (hlimit : size ≤ config.metadataMaxSize) (h : writeMetadataRecord m size 0 = .ok head)
    (rest : Bytes) : readMetadata (head ++ rest) config = .ok m := by
  obtain ⟨hfit, hwide, -⟩ := writeMetadataRecord_eq_ok_inv hsize h
  rw [writeMetadataRecord_eq_ok hfit hwide, Except.ok.injEq] at h
  rw [← h, readMetadata, readMetadataRecord_metadataRecord hfit hwide hlimit rest]
  rfl

/-- Replacing the metadata of a recording writes the new record in the old block's size in place
of the old record, and keeps every byte after it. -/
theorem replaceMetadata_eq {F : Bytes} {m₀ m : DemoMetadata} {M : Nat} {config : DemoConfig}
    {src : Source}
    (h : (readMetadataRecord config.metadataMaxSize 0).run (Source.init F) = (.ok (m₀, M), src)) :
    replaceMetadata F m config =
      ((writeMetadataRecord m M 0).map (· ++ F.drop (metadataRecordLen M))).mapError .metadata := by
  rw [replaceMetadata, h, ← (rest_of_readMetadataRecord h).2]
  change (writeMetadataRecord m M 0).mapError DemoError.metadata >>= (fun head => pure (head ++ src.rest)) = _
  cases writeMetadataRecord m M 0 <;> rfl

/-- The state `s'` is `s` with the metadata of the recording `F` at `path`, a block of `M` bytes,
rewritten to `m`: the file holds the record written for `m` in that block and then every byte
that followed the old record, so it keeps its length and reads back as `m`, and every path that
names another file reads as it did. -/
def MetadataSpliced {σ ι : Type} (config : DemoConfig) (contents : σ → String → Except FileError Bytes)
    (place : σ → String → Option ι) (s s' : σ) (path : String) (F : Bytes) (M : Nat)
    (m : DemoMetadata) : Prop :=
  ∃ head, writeMetadataRecord m M 0 = .ok head ∧ head.length = metadataRecordLen M ∧
    contents s' path = .ok (head ++ F.drop (metadataRecordLen M)) ∧
    (head ++ F.drop (metadataRecordLen M)).length = F.length ∧
    readMetadata (head ++ F.drop (metadataRecordLen M)) config = .ok m ∧
    ∀ q, place s q ≠ place s path → contents s' q = contents s q

section Rewrite

variable {σ ι : Type} {sys : FileSystem (StateM σ)} {contents : σ → String → Except FileError Bytes}
  {place : σ → String → Option ι} {s s' : σ} {path : String} {F : Bytes} {config : DemoConfig}
  {m₀ m : DemoMetadata} {M : Nat} {src : Source}

/-- At offset 0 the header's offset field always fits, so the record of a block read back is
refused only for entries that overflow it or a block too wide for the header. -/
theorem writeMetadataRecord_refused_iff_of_read
    (hrec : (readMetadataRecord config.metadataMaxSize 0).run (Source.init F) = (.ok (m₀, M), src)) :
    (∃ e, writeMetadataRecord m M 0 = .error e) ↔ M < m.encodedLen ∨ 2 ^ (31 : Nat) ≤ 16 + M := by
  obtain ⟨-, hM, -⟩ := readMetadataRecord_eq_ok hrec
  rw [writeMetadataRecord_refused_iff (by omega), blockOffset_zero]
  simp

/-- A file that holds the record written for `m` followed by what followed the old record, with
every other file as it was, is the splice. -/
theorem metadataSpliced_of_contents {head : Bytes}
    (hrec : (readMetadataRecord config.metadataMaxSize 0).run (Source.init F) = (.ok (m₀, M), src))
    (hw : writeMetadataRecord m M 0 = .ok head)
    (hnew : contents s' path = .ok (head ++ F.drop (metadataRecordLen M)))
    (hframe : ∀ q, place s q ≠ place s path → contents s' q = contents s q) :
    MetadataSpliced config contents place s s' path F M m := by
  obtain ⟨hlimit, hM, -⟩ := readMetadataRecord_eq_ok hrec
  have hlen := (rest_of_readMetadataRecord hrec).1
  have hhead := length_of_writeMetadataRecord (by omega) hw
  refine ⟨head, hw, hhead, hnew, ?_, readMetadata_of_writeMetadataRecord (by omega) hlimit hw _,
    hframe⟩
  simp only [List.length_append, List.length_drop, hhead]
  omega

/-- Rewriting the metadata of a recording whose record reads back fails exactly when the new
entries overflow the block, the block is too wide for the header, or the file system refuses the
replacement, and then changes nothing; otherwise it splices the new record in. -/
theorem rewriteMetadata_spliced (hsys : sys.Atomic contents place)
    (hfile : contents s path = .ok F)
    (hrec : (readMetadataRecord config.metadataMaxSize 0).run (Source.init F) = (.ok (m₀, M), src))
    {r : Except DemoError Unit}
    (hrun : (CommandLine.rewriteMetadata sys path m config).run s = (r, s')) :
    ((∃ e, r = .error e) ↔ M < m.encodedLen ∨ 2 ^ (31 : Nat) ≤ 16 + M ∨
      ∃ head e, writeMetadataRecord m M 0 = .ok head ∧
        ((sys.replace path (head ++ F.drop (metadataRecordLen M))).run s).1 = .error e) ∧
    (∀ e, r = .error e → s' = s) ∧
    (r = .ok () → MetadataSpliced config contents place s s' path F M m) := by
  have hrefused := writeMetadataRecord_refused_iff_of_read (m := m) hrec
  rw [hsys.rewriteMetadata_run hfile, replaceMetadata_eq hrec] at hrun
  obtain ⟨w, hw⟩ : ∃ w, writeMetadataRecord m M 0 = w := ⟨_, rfl⟩
  cases w with
  | error e =>
    simp only [hw, Except.map, Except.mapError] at hrun
    obtain ⟨rfl, rfl⟩ := hrun
    exact ⟨⟨fun _ => Or.imp_right Or.inl (hrefused.mp ⟨e, hw⟩), fun _ => ⟨_, rfl⟩⟩, fun _ _ => rfl,
      fun h => by cases h⟩
  | ok head =>
    simp only [hw, Except.map, Except.mapError] at hrun
    have hfits : ¬ (M < m.encodedLen ∨ 2 ^ (31 : Nat) ≤ 16 + M) := by
      rw [← hrefused, hw]
      simp
    -- the outcome is the replacement's
    rcases hrep : (sys.replace path (head ++ F.drop (metadataRecordLen M))).run s with ⟨r₀, s₀⟩
    rw [hrep] at hrun
    obtain ⟨rfl, rfl⟩ := hrun
    rcases hsys.replace_cases hfile hrep with ⟨e, rfl, rfl⟩ | ⟨rfl, hnew, hframe⟩
    · exact ⟨⟨fun _ => .inr (.inr ⟨head, _, hw, by rw [hrep]⟩), fun _ => ⟨_, rfl⟩⟩,
        fun _ _ => rfl, fun h => by cases h⟩
    · refine ⟨⟨fun ⟨_, he⟩ => (by cases he), ?_⟩, fun _ h => (by cases h),
        fun _ => metadataSpliced_of_contents hrec hw hnew hframe⟩
      rintro (hbig | hwide | ⟨head', e, hw', he⟩)
      · exact absurd (.inl hbig) hfits
      · exact absurd (.inr hwide) hfits
      · rw [hw, Except.ok.injEq] at hw'
        subst hw'
        rw [hrep] at he
        cases he

/-- A run of `set-meta` on the recording `F` at `path`: the metadata is read, the assignments
made, and the metadata rewritten; a failure at any step ends the run, and only the rewrite can
change the state. -/
theorem setMetaCommand_run (hsys : sys.Atomic contents place) (hfile : contents s path = .ok F)
    (as : List (String × String)) (out : String) :
    ((CommandLine.setMetaCommand sys path as).run.run out).run s =
      match readMetadata F DemoConfig.standard with
      | .error e => ((.error (s!"read metadata {path}" :: e.message :: e.sources), out), s)
      | .ok m₀ =>
        match applyAssignments m₀ as with
        | (_, .error e) => ((.error ["apply metadata", e.message], out), s)
        | (m, .ok ()) =>
          match (CommandLine.rewriteMetadata sys path m DemoConfig.standard).run s with
          | (.error e, s') =>
            ((.error (s!"rewrite metadata {path}" :: e.message :: e.sources), out), s')
          | (.ok (), s') => ((.ok (), out ++ s!"{path}: {m.size} metadata entries\n"), s') := by
  simp [CommandLine.setMetaCommand, hsys.read_eq, CommandLine.orFail, hfile, liftM,
    monadLift, MonadLift.monadLift, ExceptT.lift]
  rcases readMetadata F DemoConfig.standard with e | m₀
  · rfl
  rcases happ : applyAssignments m₀ as with ⟨m, _ | ⟨⟩⟩
  · simp [happ]
    rfl
  simp [happ]
  rcases (CommandLine.rewriteMetadata sys path m DemoConfig.standard).run s with
    ⟨_ | ⟨⟩, s'⟩
  · simp
    rfl
  · simp [CommandLine.say]
    rfl

/-- `set-meta` on a recording either fails and changes nothing, or has read the recording's
metadata, made every assignment, and spliced the result in, each key then holding what the
assignments give it. -/
theorem setMetaCommand_spliced (hsys : sys.Atomic contents place) (hfile : contents s path = .ok F)
    (as : List (String × String)) (out : String) {r : Except CommandLine.Failure Unit} {out' : String}
    (hrun : ((CommandLine.setMetaCommand sys path as).run.run out).run s = ((r, out'), s')) :
    (∀ f, r = .error f → s' = s) ∧
    (r = .ok () → ∃ m₀ M src m,
      (readMetadataRecord DemoConfig.standard.metadataMaxSize 0).run (Source.init F) =
        (.ok (m₀, M), src) ∧
      applyAssignments m₀ as = (m, .ok ()) ∧ (∀ key, m.get? key = assignedValue m₀ as key) ∧
      MetadataSpliced DemoConfig.standard contents place s s' path F M m) := by
  rw [setMetaCommand_run hsys hfile] at hrun
  rcases hrec : (readMetadataRecord DemoConfig.standard.metadataMaxSize 0).run (Source.init F) with
    ⟨_ | ⟨m₀, M⟩, src⟩
  · -- the metadata cannot be read
    simp only [readMetadata, hrec, Except.map] at hrun
    obtain ⟨⟨rfl, -⟩, rfl⟩ := hrun
    exact ⟨fun _ _ => rfl, fun h => nomatch h⟩
  have hread : readMetadata F DemoConfig.standard = .ok m₀ := by
    rw [readMetadata, hrec]
    rfl
  simp only [hread] at hrun
  rcases happ : applyAssignments m₀ as with ⟨m, _ | ⟨⟩⟩
  · -- an assignment is refused
    simp only [happ] at hrun
    obtain ⟨⟨rfl, -⟩, rfl⟩ := hrun
    exact ⟨fun _ _ => rfl, fun h => nomatch h⟩
  rcases hrw : (CommandLine.rewriteMetadata sys path m DemoConfig.standard).run s with ⟨r', s''⟩
  obtain ⟨-, hfail, hdone⟩ := rewriteMetadata_spliced hsys hfile hrec hrw
  simp only [happ, hrw] at hrun
  rcases r' with e | ⟨⟩
  · -- the rewrite fails
    simp only at hrun
    obtain ⟨⟨rfl, -⟩, rfl⟩ := hrun
    exact ⟨fun _ _ => hfail e rfl, fun h => nomatch h⟩
  · simp only at hrun
    obtain ⟨⟨rfl, -⟩, rfl⟩ := hrun
    exact ⟨fun _ h => (nomatch h), fun _ =>
      ⟨m₀, M, src, m, rfl, happ, get?_applyAssignments happ, hdone rfl⟩⟩

end Rewrite

/-- Metadata rewriting on any file system that replaces files atomically: a rewrite fails changing
nothing or splices the new record in front of the old records, and `set-meta` makes its
assignments in turn. -/
theorem metadata_rewrite_splices {σ ι : Type} (sys : FileSystem (StateM σ))
    (contents : σ → String → Except FileError Bytes) (place : σ → String → Option ι)
    (hsys : sys.Atomic contents place) (s : σ) (path : String) (F : Bytes)
    (hfile : contents s path = .ok F) :
    (∀ (config : DemoConfig) (m₀ : DemoMetadata) (M : Nat) (src : Source),
      (readMetadataRecord config.metadataMaxSize 0).run (Source.init F) = (.ok (m₀, M), src) →
      ∀ (m : DemoMetadata) (r : Except DemoError Unit) (s' : σ),
        (CommandLine.rewriteMetadata sys path m config).run s = (r, s') →
        ((∃ e, r = .error e) ↔ M < m.encodedLen ∨ 2 ^ (31 : Nat) ≤ 16 + M ∨
          ∃ head e, writeMetadataRecord m M 0 = .ok head ∧
            ((sys.replace path (head ++ F.drop (metadataRecordLen M))).run s).1 = .error e) ∧
        (∀ e, r = .error e → s' = s) ∧
        (r = .ok () → MetadataSpliced config contents place s s' path F M m)) ∧
    (∀ (as : List (String × String)) (out out' : String) (r : Except CommandLine.Failure Unit)
      (s' : σ),
      ((CommandLine.setMetaCommand sys path as).run.run out).run s = ((r, out'), s') →
      (∀ f, r = .error f → s' = s) ∧
      (r = .ok () → ∃ m₀ M src m,
        (readMetadataRecord DemoConfig.standard.metadataMaxSize 0).run (Source.init F) =
          (.ok (m₀, M), src) ∧
        applyAssignments m₀ as = (m, .ok ()) ∧ (∀ key, m.get? key = assignedValue m₀ as key) ∧
        MetadataSpliced DemoConfig.standard contents place s s' path F M m)) ∧
    (∀ arg k v, parseAssignment arg = .ok (k, v) ↔ k ≠ "" ∧ '=' ∉ k.toList ∧ arg = k ++ "=" ++ v) :=
  ⟨fun _ _ _ _ hrec _ _ _ hrun => rewriteMetadata_spliced hsys hfile hrec hrun,
    fun as out _ _ _ hrun => setMetaCommand_spliced hsys hfile as out hrun,
    fun _ _ _ => parseAssignment_eq_ok⟩

/-- A recording with no metadata in a block of 32 bytes and no records, alone in a file system
held in memory, is given a map name: the rewrite succeeds and splices the new record in, and
`set-meta` changes nothing unless it succeeds. -/
theorem metadata_rewrite_splices_sample :
    let F := metadataRecord DemoMetadata.empty 32 ++ toLE 4 endOfStream
    let fs : MemoryFiles := ⟨[("d", F)]⟩
    let m : DemoMetadata := ⟨[("map", "e1m1")], by decide, by decide⟩
    let run := (CommandLine.rewriteMetadata MemoryFiles.system "d" m DemoConfig.standard).run fs
    let cmd := ((CommandLine.setMetaCommand MemoryFiles.system "d" [("map", "e1m1")]).run.run "").run fs
    MemoryFiles.system.Atomic MemoryFiles.read MemoryFiles.placeOf? ∧ fs.read "d" = .ok F ∧
      run.1 = .ok () ∧
      MetadataSpliced DemoConfig.standard MemoryFiles.read MemoryFiles.placeOf? fs run.2 "d" F 32 m ∧
      (∀ f, cmd.1.1 = .error f → cmd.2 = fs) := by
  intro F fs m run cmd
  have hsplit : "d".splitOn "/" = ["d"] := by
    rw [String.splitOn, if_neg (by decide), String.splitOnAux, if_neg (by decide),
      if_neg (by decide), String.splitOnAux, if_pos (by decide)]
    decide
  have hlookup : fs.lookup "d" = .file ["d"] F := by
    simp [fs, MemoryFiles.lookup, MemoryFiles.start, MemoryFiles.walk, MemoryFiles.fileAt?,
      pathComponents, hsplit]
  have hfile : fs.read "d" = .ok F := by simp [MemoryFiles.read, hlookup]
  have hrec := readMetadataRecord_metadataRecord (m := DemoMetadata.empty) (by decide) (by decide)
    (by decide : 32 ≤ DemoConfig.standard.metadataMaxSize) (toLE 4 endOfStream)
  have splices := metadata_rewrite_splices MemoryFiles.system MemoryFiles.read MemoryFiles.placeOf?
    MemoryFiles.system_atomic fs "d" F hfile
  rcases hrun : run with ⟨r, fs'⟩
  rcases hcmd : cmd with ⟨⟨r', out'⟩, fs''⟩
  obtain ⟨hrefused, -, hdone⟩ := splices.1 _ _ _ _ hrec m r fs' hrun
  -- the new entry fits the block, and a file held in memory is always replaced
  have hok : r = .ok () := by
    rcases r with e | ⟨⟩
    · rcases hrefused.mp ⟨e, rfl⟩ with hbig | hwide | ⟨head, e', -, hrep⟩
      · exact absurd hbig (by decide)
      · exact absurd hwide (by decide)
      · rw [MemoryFiles.system_replace_run, MemoryFiles.replace_of_lookup hlookup] at hrep
        cases hrep
    · rfl
  exact ⟨MemoryFiles.system_atomic, hfile, hok, hdone hok, (splices.2.1 _ _ _ _ _ hcmd).1⟩

end EntitySync
