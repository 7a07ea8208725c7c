import EntitySync.Proofs.FieldLayout
import EntitySync.Proofs.CodeGrammar
import EntitySync.Proofs.Frame
/-!
# Calls on a message buffer

A message buffer is changed in place, so what a failed call leaves behind depends on the order
of its steps. Every write checks the room for all it will append before it appends anything: a
block checks the room for its length and its bytes before it writes the length, and a string the
room for itself and its terminator (`Put.run_eq`). Every read moves the byte reader past what it
read or leaves it where it was, a block read by moving it back (`Get.atomic_run`).

From these, every buffer that a run of calls reaches from `new` or a successful `from_bytes`
keeps its read position within its bytes and its bytes within its capacity (`Reachable.bounded`),
and `message_buffer_calls_safe` says what each call does there: a write fails exactly when it
refuses its argument or its bytes do not fit, and then changes nothing; a read that fails leaves
the read position where it was; a reset fails exactly when it asks for more than the capacity.
-/

namespace EntitySync

/-! ## Reads move forward or not at all -/

namespace Cursor

/-- A read that, when it succeeds, took bytes from the front and moved the position past them. -/
def Moves {ε α : Type} (read : Cursor → Except ε (α × Cursor)) : Prop :=
  ∀ {c : Cursor} {a : α} {c' : Cursor}, read c = .ok (a, c') →
    ∃ q, c.rest = q ++ c'.rest ∧ c'.pos = c.pos + q.length

theorem moves_take (n : Nat) : Moves fun c : Cursor => c.take n := fun h => by
  obtain ⟨hrest, hlen, hpos⟩ := take_eq_ok h
  exact ⟨_, hrest, by rw [hpos, hlen]⟩

theorem moves_readUInt (w : Nat) : Moves fun c : Cursor => c.readUInt w := fun h => by
  simp only [readUInt, Except.bind_eq_ok] at h
  obtain ⟨⟨bs, c₁⟩, htake, h⟩ := h
  cases h
  exact moves_take w htake

theorem moves_readInt (w : Nat) : Moves fun c : Cursor => c.readInt w := fun h => by
  simp only [readInt, Except.bind_eq_ok] at h
  obtain ⟨⟨n, c₁⟩, hread, h⟩ := h
  cases h
  exact moves_readUInt w hread

theorem moves_readVarU32 : Moves Cursor.readVarU32 := fun h => by
  obtain ⟨vb, -, -, -, hrest, hpos⟩ := readVarU32_eq_ok_iff.mp h
  exact ⟨vb, hrest, hpos⟩

theorem moves_readVarU64 : Moves Cursor.readVarU64 := fun {c a c'} h => by
  simp only [readVarU64, readVarint, Except.bind_eq_ok] at h
  obtain ⟨⟨v, n⟩, hdec, h⟩ := h
  cases h
  obtain ⟨vb, -, hsplit, -, -, -, rfl⟩ := varint_of_decodeVarintFrom hdec
  refine ⟨vb, ?_, by simp⟩
  simpa using hsplit

theorem moves_readString (maxLen : Nat) : Moves fun c : Cursor => c.readString maxLen :=
  fun {_ s _} h => by
    obtain ⟨hrest, hpos, -, -⟩ := readString_eq_ok h
    exact ⟨encodeUtf8 s ++ [0], by simp [hrest], by simp [hpos, Nat.add_assoc]⟩

theorem atOffset_of_le {data : Bytes} {p : Nat} (h : p ≤ data.length) :
    atOffset data p = ⟨data.drop p, p⟩ := by
  simp [atOffset, Nat.min_eq_left h]

theorem atOffset_of_moved {data q : Bytes} {p : Nat} {c' : Cursor} (hp : p ≤ data.length)
    (hq : (atOffset data p).rest = q ++ c'.rest) (hpos : c'.pos = (atOffset data p).pos + q.length) :
    c'.pos ≤ data.length ∧ atOffset data c'.pos = c' := by
  rw [atOffset_of_le hp] at hq hpos
  dsimp only at hq hpos
  have hlen := congrArg List.length hq
  simp only [List.length_drop, List.length_append] at hlen
  have hle : c'.pos ≤ data.length := by omega
  refine ⟨hle, ?_⟩
  rw [atOffset_of_le hle]
  cases c'
  dsimp only at hpos hq ⊢
  rw [hpos, ← List.drop_drop, hq, List.drop_left]

end Cursor

theorem run_map {ε σ α β : Type} (f : α → β) (x : EStateM ε σ α) (s : σ) :
    (f <$> x).run s = match x.run s with
      | .ok a s' => .ok (f a) s'
      | .error e s' => .error e s' := by
  simp only [EStateM.run, Functor.map, EStateM.map]
  rcases x s <;> rfl

namespace ReadM

variable {α : Type}

theorem ofRead_run (read : Cursor → Except StreamError (α × Cursor)) (c : Cursor) :
    (ofRead read).run c = match read c with
      | .ok (a, c') => .ok a c'
      | .error e => .error e c := rfl

/-- A block read moves the cursor past the block, or fails and leaves it where it was: the
length moved it, and a failure after the length moves it back. -/
theorem block_run (maxLen : Nat) (c : Cursor) :
    (block maxLen).run c = match c.readVarU32 with
      | .ok (len, c₁) =>
        if maxLen < len then .error (.rangeViolation len (maxLen + 1)) c
        else match c₁.take len with
          | .ok (bs, c₂) => .ok bs c₂
          | .error e => .error e c
      | .error e => .error e c := by
  rcases hv : c.readVarU32 with e | ⟨len, c₁⟩
  · simp [block, hv, EStateM.run, bind, EStateM.bind, get, getThe, MonadStateOf.get, EStateM.get,
      ofRead]
  by_cases hlen : maxLen < len
  · -- the length is out of range: the cursor goes back to where the block began
    simp [block, hv, hlen, EStateM.run, bind, EStateM.bind, get, getThe, MonadStateOf.get,
      EStateM.get, ofRead, set, EStateM.set, throw, throwThe, MonadExceptOf.throw, EStateM.throw]
  · -- the bytes are read, or the cursor goes back when they run short
    rcases ht : c₁.take len with e | ⟨bs, c₂⟩ <;>
      simp [block, hv, hlen, ht, EStateM.run, bind, EStateM.bind, get, getThe, MonadStateOf.get,
        EStateM.get, ofRead, set, EStateM.set, throw, throwThe, MonadExceptOf.throw, EStateM.throw,
        tryCatch, tryCatchThe, MonadExceptOf.tryCatch, EStateM.tryCatch]

/-- A read that moves the cursor past what it read, or fails and leaves the cursor where it
was. -/
structure Atomic (x : ReadM α) : Prop where
  ok : ∀ {c : Cursor} {a : α} {c' : Cursor}, x.run c = .ok a c' →
    ∃ q, c.rest = q ++ c'.rest ∧ c'.pos = c.pos + q.length
  error : ∀ {c : Cursor} {e : StreamError} {c' : Cursor}, x.run c = .error e c' → c' = c

theorem Atomic.ofRead {read : Cursor → Except StreamError (α × Cursor)} (h : Cursor.Moves read) :
    Atomic (ofRead read) where
  ok {c a c'} hr := by
    rw [ofRead_run] at hr
    split at hr
    · cases hr
      exact h ‹_›
    · cases hr
  error {c e c'} hr := by
    rw [ofRead_run] at hr
    split at hr
    · cases hr
    · cases hr
      rfl

theorem Atomic.map {β : Type} {x : ReadM α} (h : Atomic x) (f : α → β) : Atomic (f <$> x) where
  ok {c b c'} hr := by
    rw [run_map] at hr
    split at hr
    · cases hr
      exact h.ok ‹_›
    · cases hr
  error {c e c'} hr := by
    rw [run_map] at hr
    split at hr
    · cases hr
    · cases hr
      exact h.error ‹_›

theorem atomic_block (maxLen : Nat) : Atomic (block maxLen) where
  ok {c bs c'} hr := by
    rw [block_run] at hr
    split at hr
    · next len c₁ hv =>
      split_ifs at hr
      split at hr
      · next bs' c₂ ht =>
        cases hr
        obtain ⟨q₁, hq₁, hp₁⟩ := Cursor.moves_readVarU32 hv
        obtain ⟨q₂, hq₂, hp₂⟩ := Cursor.moves_take len ht
        exact ⟨q₁ ++ q₂, by rw [hq₁, hq₂, List.append_assoc], by
          rw [hp₂, hp₁, List.length_append, Nat.add_assoc]⟩
      · cases hr
    · cases hr
  error {c e c'} hr := by
    rw [block_run] at hr
    split at hr
    · split_ifs at hr
      · cases hr
        rfl
      · split at hr
        · cases hr
        · cases hr
          rfl
    · cases hr
      rfl

end ReadM

theorem Get.atomic_run (g : Get) : ReadM.Atomic g.run := by
  cases g with
  | uint w => exact (ReadM.Atomic.ofRead (Cursor.moves_readUInt w)).map _
  | int w => exact (ReadM.Atomic.ofRead (Cursor.moves_readInt w)).map _
  | varU32 => exact (ReadM.Atomic.ofRead Cursor.moves_readVarU32).map _
  | varU64 => exact (ReadM.Atomic.ofRead Cursor.moves_readVarU64).map _
  | bytes n => exact (ReadM.Atomic.ofRead (Cursor.moves_take n)).map _
  | block maxLen => exact (ReadM.atomic_block maxLen).map _
  | string maxLen => exact (ReadM.Atomic.ofRead (Cursor.moves_readString maxLen)).map _

/-! ## Writes check all their room first -/

namespace WriteM

/-- The checked write: its bytes when they fit, otherwise a failure that names the size asked
for, with the buffer unchanged. -/
theorem write_run (bs : Bytes) (b : Buffer) : (write bs).run b =
    if b.Fits bs.length then .ok () (b.appended bs)
    else .error (.bufferOverflow (satAdd b.size bs.length) b.capacity) b := by
  split_ifs with h
  · exact write_run_of_fits h
  · have h' : b.capacity < satAdd b.data.length bs.length := Nat.lt_of_not_le h
    simp [write, EStateM.run, Buffer.write, Buffer.ensureFree, h', bind, Except.bind, Buffer.size]

/-- A block whose length fits in 32 bits is written as one checked write of its length and its
bytes: the room for both is checked before the length goes in. -/
theorem writeBlock_run (bs : Bytes) (b : Buffer) :
    (writeBlock bs).run b =
      if 2 ^ (32 : Nat) ≤ bs.length then .error (.bufferOverflow bs.length b.capacity) b
      else (write (encodeVarint bs.length ++ bs)).run b := by
  by_cases hlong : 2 ^ (32 : Nat) ≤ bs.length
  · simp [writeBlock, hlong, EStateM.run, bind, EStateM.bind, get, getThe, MonadStateOf.get,
      EStateM.get, throw, throwThe, MonadExceptOf.throw, EStateM.throw]
  have hsteps : (writeBlock bs).run b = (ensureFree (varintLen bs.length + bs.length) >>= fun _ =>
      writeVarint bs.length >>= fun _ => write bs).run b := by
    simp [writeBlock, hlong, EStateM.run, bind, EStateM.bind, get, getThe, MonadStateOf.get,
      EStateM.get]
  rw [if_neg hlong, hsteps]
  by_cases hfit : b.Fits (varintLen bs.length + bs.length)
  · have hv : b.Fits (encodeVarint bs.length).length := hfit.mono (by simp)
    have hb : (b.appended (encodeVarint bs.length)).Fits bs.length :=
      Buffer.Fits.appended (by simpa using hfit)
    rw [run_bind_ok (ensureFree_run_of_fits hfit), writeVarint, run_bind_ok (write_run_of_fits hv),
      write_run_of_fits hb, write_run_of_fits (by simpa using hfit), Buffer.appended_appended]
  · rw [run_bind_error (ensureFree_run_of_not_fits_eq hfit), write_run,
      if_neg (by simpa using hfit), List.length_append, length_encodeVarint, Buffer.size]

end WriteM

namespace Put

/-- The bytes a write appends. -/
def encoding : Put → Bytes
  | .uint w n => toLE w n
  | .int w v => toLE w (twosComplement w v)
  | .varint v => encodeVarint v
  | .bytes bs => bs
  | .block bs => encodeVarint bs.length ++ bs
  | .string text _ => encodeUtf8 text ++ [0]

/-- Why a write refuses its argument before it looks at the room, if it does: a block whose
length does not fit in 32 bits, or a string over its bound or holding a NUL byte. -/
def refusal (capacity : Nat) : Put → Option StreamError
  | .block bs => if 2 ^ (32 : Nat) ≤ bs.length then some (.bufferOverflow bs.length capacity) else none
  | .string text maxLen =>
    if maxLen < (encodeUtf8 text).length ∨ (encodeUtf8 text).contains 0 then
      some (.stringTooLong (encodeUtf8 text).length maxLen)
    else none
  | .uint .. | .int .. | .varint _ | .bytes _ => none

theorem run_eq (p : Put) (b : Buffer) : p.run.run b =
    match p.refusal b.capacity with
    | some e => .error e b
    | none =>
      if b.Fits p.encoding.length then .ok () (b.appended p.encoding)
      else .error (.bufferOverflow (satAdd b.size p.encoding.length) b.capacity) b := by
  rw [← WriteM.write_run]
  cases p with
  | uint w n => rfl
  | int w v => rfl
  | varint v => rfl
  | bytes bs => rfl
  | block bs =>
    rw [run, WriteM.writeBlock_run]
    simp only [refusal, encoding]
    split_ifs <;> rfl
  | string text maxLen =>
    rw [run, WriteM.writeString_run]
    simp only [refusal, encoding]
    split_ifs <;> rfl

theorem run_error {p : Put} {b b' : Buffer} {e : StreamError} (h : p.run.run b = .error e b') :
    b' = b := by
  rw [run_eq] at h
  split at h
  · cases h
    rfl
  · split_ifs at h
    cases h
    rfl

theorem run_ok {p : Put} {b b' : Buffer} {u : Unit} (h : p.run.run b = .ok u b') :
    p.refusal b.capacity = none ∧ b.Fits p.encoding.length ∧ b' = b.appended p.encoding := by
  rw [run_eq] at h
  split at h
  · cases h
  · next hr =>
    split_ifs at h with hfit
    cases h
    exact ⟨hr, hfit, rfl⟩

end Put

/-! ## The invariant every call keeps -/

namespace Buffer

/-- The invariant of a message buffer of capacity `maxsize`: the read position is within the
bytes and the bytes are within the capacity. -/
structure Bounded (maxsize : Nat) (b : Buffer) : Prop where
  readPos_le : b.readPos ≤ b.size
  size_le : b.size ≤ maxsize
  capacity_eq : b.capacity = maxsize

variable {maxsize : Nat} {b : Buffer}

/-- Below the largest machine size, `n` more bytes fit exactly when they stay within the
capacity. -/
theorem fits_iff (hcap : b.capacity < maxSize) {n : Nat} : b.Fits n ↔ b.size + n ≤ b.capacity := by
  unfold Fits satAdd size
  omega

theorem Bounded.appended (hb : b.Bounded maxsize) (hmax : maxsize < maxSize) {bs : Bytes}
    (hfit : b.Fits bs.length) : (b.appended bs).Bounded maxsize := by
  have hle := (fits_iff (hb.capacity_eq ▸ hmax)).mp hfit
  have hpos := hb.readPos_le
  have hcap := hb.capacity_eq
  refine ⟨?_, ?_, hb.capacity_eq⟩ <;> simp only [size, appended_data, appended_readPos,
    List.length_append] at * <;> omega

theorem withReader_run {α : Type} (x : ReadM α) (b : Buffer) : (withReader x).run b =
    match x.run (Cursor.atOffset b.data b.readPos) with
    | .ok a c => .ok a { b with readPos := c.pos }
    | .error e c => .error e { b with readPos := c.pos } := rfl

theorem withReader_run_error {α : Type} {x : ReadM α} (hx : x.Atomic) (hpos : b.readPos ≤ b.size)
    {e : StreamError} {b' : Buffer} (h : (withReader x).run b = .error e b') : b' = b := by
  rw [withReader_run] at h
  split at h
  · cases h
  · next c hc =>
    cases h
    rw [hx.error hc, Cursor.atOffset_of_le hpos]

/-- A read that succeeds moves the read position past what it read, and no further than the
bytes. -/
theorem withReader_run_ok {α : Type} {x : ReadM α} (hx : x.Atomic) (hpos : b.readPos ≤ b.size)
    {a : α} {b' : Buffer} (h : (withReader x).run b = .ok a b') :
    b'.data = b.data ∧ b'.capacity = b.capacity ∧ b.readPos ≤ b'.readPos ∧ b'.readPos ≤ b.size := by
  rw [withReader_run] at h
  split at h
  · next c hc =>
    cases h
    obtain ⟨q, hq, hp⟩ := hx.ok hc
    obtain ⟨hle, -⟩ := Cursor.atOffset_of_moved hpos hq hp
    rw [Cursor.atOffset_of_le hpos] at hp
    exact ⟨rfl, rfl, Nat.le.intro hp.symm, hle⟩
  · cases h

end Buffer

namespace WriteM

variable {ε α β : Type} {maxsize : Nat}

/-- The buffer a step leaves, whether it succeeded or failed. -/
def after (x : WriteM ε α) (b : Buffer) : Buffer :=
  match x.run b with
  | .ok _ b' => b'
  | .error _ b' => b'

/-- A step that keeps the invariant of a buffer of capacity `maxsize`, whether it succeeds or
fails. -/
def KeepsBounded (maxsize : Nat) (x : WriteM ε α) : Prop :=
  ∀ b, b.Bounded maxsize → (x.after b).Bounded maxsize

theorem KeepsBounded.bind {x : WriteM ε α} {f : α → WriteM ε β} (hx : KeepsBounded maxsize x)
    (hf : ∀ a, KeepsBounded maxsize (f a)) : KeepsBounded maxsize (x >>= f) := fun b hb => by
  have hx := hx b hb
  unfold after at hx ⊢
  rw [EStateM.run_bind]
  rcases hr : x.run b with ⟨a, b₁⟩ | ⟨e, b₁⟩
  · rw [hr] at hx
    exact hf a b₁ hx
  · rw [hr] at hx
    exact hx

theorem KeepsBounded.map {x : WriteM ε α} (hx : KeepsBounded maxsize x) (f : α → β) :
    KeepsBounded maxsize (f <$> x) := by
  rw [map_eq_pure_bind]
  exact hx.bind fun a b hb => hb

theorem keepsBounded_pure (a : α) : KeepsBounded maxsize (pure a : WriteM ε α) := fun _ hb => hb

theorem keepsBounded_ensureFree (n : Nat) : KeepsBounded maxsize (ensureFree n) := fun b hb => by
  unfold after
  by_cases hfit : b.Fits n
  · rw [ensureFree_run_of_fits hfit]
    exact hb
  · rw [ensureFree_run_of_not_fits_eq hfit]
    exact hb

end WriteM

open WriteM in
theorem Put.keepsBounded {maxsize : Nat} (hmax : maxsize < maxSize) (p : Put) :
    KeepsBounded maxsize p.run := fun b hb => by
  unfold after
  split
  · next u b' hr =>
    obtain ⟨-, hfit, rfl⟩ := Put.run_ok hr
    exact hb.appended hmax hfit
  · next e b' hr =>
    rw [Put.run_error hr]
    exact hb

open WriteM in
theorem Get.keepsBounded {maxsize : Nat} (g : Get) : KeepsBounded maxsize (Buffer.withReader g.run) :=
  fun b hb => by
    unfold after
    split
    · next v b' hr =>
      obtain ⟨hdata, hcap, -, hpos⟩ := Buffer.withReader_run_ok g.atomic_run hb.readPos_le hr
      refine ⟨?_, ?_, hcap.trans hb.capacity_eq⟩ <;> simp only [Buffer.size, hdata]
      · exact hpos
      · exact hb.size_le
    · next e b' hr =>
      rw [Buffer.withReader_run_error g.atomic_run hb.readPos_le hr]
      exact hb

theorem length_resetWithLen {b b' : Buffer} {len : Nat} {fill : Bytes}
    (h : b.resetWithLen len fill = .ok b') : b'.size = len ∧ b'.capacity = b.capacity ∧ b'.readPos = 0 ∧ len ≤ b.capacity := by
  unfold Buffer.resetWithLen at h
  split_ifs at h with hlen
  cases h
  refine ⟨?_, rfl, rfl, Nat.le_of_not_lt hlen⟩
  simp only [Buffer.size, List.length_append, List.length_take, List.length_replicate]
  omega

open WriteM in
theorem Call.keepsBounded {maxsize : Nat} (hmax : maxsize < maxSize) :
    ∀ c : Call, KeepsBounded maxsize c.run
  | .put p => (p.keepsBounded hmax).bind fun _ => keepsBounded_pure _
  | .get g => g.keepsBounded.map _
  | .clear => fun b hb => ⟨Nat.le_refl _, Nat.zero_le _, hb.capacity_eq⟩
  | .beginReading => fun b hb => ⟨Nat.zero_le _, hb.size_le, hb.capacity_eq⟩
  | .resetWithLen len fill => fun b hb => by
    unfold after
    rcases hr : b.resetWithLen len fill with e | b'
    · simp only [Call.run, EStateM.run, hr]
      exact hb
    · obtain ⟨hsize, hcap, hpos, hlen⟩ := length_resetWithLen hr
      simp only [Call.run, EStateM.run, hr]
      exact ⟨by omega, by rw [hsize, ← hb.capacity_eq]; exact hlen, hcap.trans hb.capacity_eq⟩
  | .ensureFree n => (keepsBounded_ensureFree n).bind fun _ => keepsBounded_pure _

/-- The buffers a run of calls reaches from an empty buffer of capacity `maxsize` or from a
successful copy of some bytes into one. A call that fails leaves its buffer behind too. -/
inductive Reachable (maxsize : Nat) : Buffer → Prop
  | new : Reachable maxsize (Buffer.empty maxsize)
  | ofBytes {bytes : Bytes} {b : Buffer} (h : Buffer.ofBytes bytes maxsize = .ok b) :
    Reachable maxsize b
  | call {b : Buffer} (c : Call) : Reachable maxsize b → Reachable maxsize (c.run.after b)

/-- Every reachable buffer keeps the invariant: by induction on the run, from the two starts
and the step lemma `Call.keepsBounded`. -/
theorem Reachable.bounded {maxsize : Nat} (hmax : maxsize < maxSize) {b : Buffer}
    (hb : Reachable maxsize b) : b.Bounded maxsize := by
  induction hb with
  | new => exact ⟨Nat.le_refl _, Nat.zero_le _, rfl⟩
  | ofBytes h =>
    obtain ⟨hfit, rfl⟩ := Buffer.write_eq_ok h
    exact Buffer.Bounded.appended ⟨Nat.le_refl _, Nat.zero_le _, rfl⟩ hmax hfit
  | call c _ ih => exact Call.keepsBounded hmax c _ ih

/-! ## Calls on a reachable buffer -/

/-- Every buffer a run of calls reaches keeps its read position within its bytes and its bytes
within its capacity, and a call that fails changes nothing. -/
theorem message_buffer_calls_safe {maxsize : Nat} (hmax : maxsize < maxSize) {b : Buffer}
    (hb : Reachable maxsize b) :
    b.readPos ≤ b.size ∧ b.size ≤ maxsize ∧ b.capacity = maxsize ∧
      (∀ p : Put, p.run.run b =
        match p.refusal maxsize with
        | some e => .error e b
        | none =>
          if maxsize < b.size + p.encoding.length then
            .error (.bufferOverflow (satAdd b.size p.encoding.length) maxsize) b
          else .ok () (b.appended p.encoding)) ∧
      (∀ g e b', (Call.get g).run.run b = .error e b' → b' = b) ∧
      ∀ len fill,
        ((∃ e b', (Call.resetWithLen len fill).run.run b = .error e b') ↔ maxsize < len) ∧
          ∀ e b', (Call.resetWithLen len fill).run.run b = .error e b' → b' = b := by
  obtain ⟨hpos, hsize, hcap⟩ := hb.bounded hmax
  refine ⟨hpos, hsize, hcap, fun p => ?_, fun g e b' h => ?_, fun len fill => ?_⟩
  · -- a write: its refusal, or the checked write of its bytes
    rw [Put.run_eq, hcap]
    have hfit : b.Fits p.encoding.length ↔ ¬ maxsize < b.size + p.encoding.length := by
      rw [Buffer.fits_iff (hcap ▸ hmax), hcap]
      omega
    cases p.refusal maxsize with
    | some e => rfl
    | none =>
      by_cases h : b.Fits p.encoding.length
      · rw [if_pos h, if_neg (hfit.mp h)]
      · rw [if_neg h, if_pos (not_not.mp (mt hfit.mpr h))]
  · -- a read: the reader failed where it stood
    rw [Call.run, run_map] at h
    split at h
    · cases h
    · next e' b₁ hr =>
      cases h
      exact Buffer.withReader_run_error g.atomic_run hpos hr
  · -- a reset: refused exactly when over the capacity
    have hrun : (Call.resetWithLen len fill).run.run b =
        if maxsize < len then .error (.bufferOverflow len maxsize) b
        else .ok none ⟨fill.take len ++ List.replicate (len - fill.length) 0, maxsize, 0⟩ := by
      simp only [Call.run, EStateM.run, Buffer.resetWithLen, hcap]
      split_ifs <;> rfl
    rw [hrun]
    by_cases hlen : maxsize < len <;> simp [hlen]

/-- A buffer of four bytes holding two: a block of three bytes needs four with its length, so it
is refused with the size it asked for and the buffer is left as it was. -/
theorem message_buffer_calls_safe_block :
    (4 : Nat) < maxSize ∧ Reachable 4 ⟨[1, 2], 4, 0⟩ ∧
      (Put.block [7, 7, 7]).run.run ⟨[1, 2], 4, 0⟩ =
        .error (.bufferOverflow 6 4) ⟨[1, 2], 4, 0⟩ := by
  have hmax : (4 : Nat) < maxSize := by decide
  have hb : Reachable 4 ⟨[1, 2], 4, 0⟩ :=
    .ofBytes (show Buffer.ofBytes [1, 2] 4 = .ok ⟨[1, 2], 4, 0⟩ by decide)
  refine ⟨hmax, hb, ?_⟩
  rw [(message_buffer_calls_safe hmax hb).2.2.2.1]
  decide +kernel

end EntitySync
