import EntitySync.Demo.Source
import EntitySync.Text.Utf8
/-!
# Recording metadata

A recording opens with a metadata record: key-value pairs of text, in the order they were set,
stored in a block of fixed size so that they can be replaced later without moving what
follows. The record is a length prefix and four signed 32-bit header fields (the length of what
follows them, the offset of the block in the file, the bytes in use and the size of the block),
then the block: each key and value NUL-terminated, padded with zeros.

Keys are nonempty, and neither keys nor values hold a NUL. Reading checks every header field
against the layout before it reads the block.
-/

namespace EntitySync

namespace DemoMetadata

def nul : Char := Char.ofNat 0

/-- An entry `set` accepts: a nonempty key, and no NUL in the key or the value. -/
def EntryOk (k v : String) : Prop := k ≠ "" ∧ nul ∉ k.toList ∧ nul ∉ v.toList

instance (k v : String) : Decidable (EntryOk k v) := inferInstanceAs (Decidable (_ ∧ _ ∧ _))

end DemoMetadata

/-- Key-value pairs in the order they were first set, each an entry `set` accepts and each key
listed once, as `set` and `remove` keep them. -/
@[ext]
structure DemoMetadata where
  entries : List (String × String)
  entries_ok : ∀ e ∈ entries, DemoMetadata.EntryOk e.1 e.2
  keys_nodup : (entries.map Prod.fst).Nodup
  deriving DecidableEq, Repr

namespace DemoMetadata

variable {m : DemoMetadata} {key value : String}

def empty : DemoMetadata := ⟨[], nofun, List.nodup_nil⟩

theorem entryOk_of_accepted
    (h : ¬ (key.isEmpty || key.toList.contains nul || value.toList.contains nul) = true) :
    EntryOk key value := by
  simp only [Bool.or_eq_true, String.isEmpty_iff, List.contains_iff_mem, not_or] at h
  exact ⟨h.1.1, h.1.2, h.2⟩

/-- Setting a key already listed changes its value in place, so the keys stay as they were. -/
theorem keys_replaced :
    ((m.entries.map fun (k, v) => if k == key then (k, value) else (k, v)).map Prod.fst) =
      m.entries.map Prod.fst := by
  rw [List.map_map]
  exact List.map_congr_left fun (k, v) _ => by by_cases hk : k = key <;> simp [hk]

theorem entries_ok_replaced (hok : EntryOk key value) :
    ∀ e ∈ m.entries.map (fun (k, v) => if k == key then (k, value) else (k, v)), EntryOk e.1 e.2 := by
  intro e he
  obtain ⟨⟨k, v⟩, hmem, rfl⟩ := List.mem_map.mp he
  by_cases hk : k = key
  · subst hk
    simpa using hok
  · simpa [hk] using m.entries_ok (k, v) hmem

theorem keys_nodup_appended (hnew : ¬ m.entries.any (·.1 == key) = true) :
    ((m.entries ++ [(key, value)]).map Prod.fst).Nodup := by
  rw [List.map_append, List.nodup_append]
  refine ⟨m.keys_nodup, by simp, fun a ha b hb hab => hnew ?_⟩
  obtain ⟨e, he, rfl⟩ := List.mem_map.mp ha
  simp only [List.map_cons, List.map_nil, List.mem_singleton] at hb
  exact List.any_eq_true.mpr ⟨e, he, by simp [hab, hb]⟩

/-- Sets `key` to `value`, in place if the key is present and at the end if not. -/
def set (m : DemoMetadata) (key value : String) : Except MetadataError DemoMetadata :=
  if h : key.isEmpty || key.toList.contains nul || value.toList.contains nul then .error (.invalidEntry key)
  else if hany : m.entries.any (·.1 == key) then
    .ok ⟨m.entries.map fun (k, v) => if k == key then (k, value) else (k, v),
      entries_ok_replaced (entryOk_of_accepted h), keys_replaced ▸ m.keys_nodup⟩
  else .ok ⟨m.entries ++ [(key, value)],
    fun e he => (List.mem_append.mp he).elim (m.entries_ok e) fun he' =>
      (List.mem_singleton.mp he') ▸ entryOk_of_accepted h,
    keys_nodup_appended hany⟩

def get? (m : DemoMetadata) (key : String) : Option String :=
  (m.entries.find? (·.1 == key)).map Prod.snd

def remove (m : DemoMetadata) (key : String) : Option String × DemoMetadata :=
  (m.get? key, ⟨m.entries.filter (·.1 != key), fun e he => m.entries_ok e (List.mem_filter.mp he).1,
    (List.filter_sublist.map Prod.fst).nodup m.keys_nodup⟩)

def size (m : DemoMetadata) : Nat := m.entries.length

def encodedLen (m : DemoMetadata) : Nat :=
  (m.entries.map fun (k, v) => k.utf8ByteSize + v.utf8ByteSize + 2).sum

/-- The entries as they stand in the block, without the padding. -/
def blobEntries (m : DemoMetadata) : Bytes :=
  m.entries.flatMap fun (k, v) => encodeUtf8 k ++ [0] ++ encodeUtf8 v ++ [0]

/-- The texts of a block's NUL-terminated parts; `acc` holds the bytes of the open part,
reversed. -/
def blobParts (acc : Bytes) : Bytes → Except MetadataError (List String)
  | [] => if acc.isEmpty then .ok [] else .error .unterminated
  | b :: rest =>
    if b == 0 then
      match stringOfUtf8 acc.reverse with
      | none => .error .invalidUtf8
      | some s => (blobParts [] rest).map (s :: ·)
    else blobParts (b :: acc) rest

def setPairs (m : DemoMetadata) : List String → Except MetadataError DemoMetadata
  | k :: v :: rest => do setPairs (← m.set k v) rest
  | _ => .ok m

/-- The metadata a block in use holds. -/
def ofBlob (blob : Bytes) : Except MetadataError DemoMetadata := do
  let parts ← blobParts [] blob
  if parts.length % 2 != 0 then throw .unterminated
  empty.setPairs parts

end DemoMetadata

def metadataHeaderSize : Nat := 16

def recordPrefixSize : Nat := 4

def endOfStream : Nat := 0xFFFFFFFF

/-- The size of a whole metadata record with a block of `maxSize` bytes. -/
def metadataRecordLen (maxSize : Nat) : Nat := recordPrefixSize + metadataHeaderSize + maxSize

def wrapSigned64 (x : Int) : Int := signedOf 8 (twosComplement 8 x)

/-- The offset of the block of a record at `recordOffset`. -/
def blockOffset (recordOffset : Nat) : Int :=
  wrapSigned64 (wrapSigned64 recordOffset + (recordPrefixSize + metadataHeaderSize : Nat))

/-- A header value that must fit a signed 32-bit field. -/
def headerField (field : String) (value : Int) : Except MetadataError Int :=
  if -2 ^ (31 : Nat) ≤ value ∧ value < 2 ^ (31 : Nat) then .ok value else .error (.badHeader field (2 ^ (31 : Nat) - 1) value)

/-- A header value read from the file, checked against the layout. -/
def checkHeader (field : String) (found expected : Int) : Except MetadataError Unit :=
  if found = expected then .ok () else .error (.badHeader field expected found)

/-- The metadata record for a record at `recordOffset` with a block of `maxSize` bytes. -/
def writeMetadataRecord (m : DemoMetadata) (maxSize recordOffset : Nat) :
    Except MetadataError Bytes := do
  let size := m.encodedLen
  if maxSize < size then throw (.tooLarge size maxSize)
  let total ← headerField "total_length" (12 + wrapSigned64 maxSize)
  let offset ← headerField "metadata_offset" (blockOffset recordOffset)
  let recordLen ← headerField "record_length" (16 + wrapSigned64 maxSize)
  return toLE 4 (twosComplement 4 recordLen) ++ toLE 4 (twosComplement 4 total) ++
    toLE 4 (twosComplement 4 offset) ++ toLE 4 (twosComplement 4 size) ++
    toLE 4 (twosComplement 4 maxSize) ++ m.blobEntries ++ List.replicate (maxSize - size) 0

/-- Reads the metadata record of a record at `recordOffset`, whose block may have at most
`limit` bytes; returns the metadata and the size of the block. -/
def readMetadataRecord (limit recordOffset : Nat) : SourceRead (DemoMetadata × Nat) := do
  let recordLen ← SourceRead.word 4
  let total ← SourceRead.signed 4
  let offset ← SourceRead.signed 4
  let realSize ← SourceRead.signed 4
  let maxSize ← SourceRead.signed 4
  let fail := fun {α : Type} (e : MetadataError) => (throw (DemoError.metadata e) : SourceRead α)
  if maxSize < 0 ∨ (limit : Int) < maxSize then fail (.tooLarge (max maxSize 0).toNat limit)
  if let .error e := checkHeader "record_length" recordLen (16 + maxSize) then fail e
  if let .error e := checkHeader "total_length" total (12 + maxSize) then fail e
  if let .error e := checkHeader "metadata_offset" offset (blockOffset recordOffset) then fail e
  if realSize < 0 ∨ maxSize < realSize then fail (.badHeader "metadata_real_size" maxSize realSize)
  let blob ← SourceRead.bytes maxSize.toNat
  match DemoMetadata.ofBlob (blob.take realSize.toNat) with
  | .ok m => return (m, maxSize.toNat)
  | .error e => fail e

end EntitySync
