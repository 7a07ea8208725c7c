import Mathlib
import EntitySync.Codec.Message
/-!
# Writing into an output buffer

What a step in `WriteM` does to the buffer it writes into. `b.Fits n` says that `n` more bytes
fit into `b`; `b.appended bs` is `b` with `bs` after its bytes. A primitive write appends all of
its bytes when they fit and otherwise fails leaving the buffer as it was.

An encoder that writes in several parts first checks the room for all of them, so the later
parts always fit. `WriteM.Appends` names the outcome: the step fails leaving the buffer as it
was, or succeeds having appended to it. Here it is proved of the field-block writer, the frame
header, sections and frames, together with what each of them appends when it succeeds.
-/

namespace EntitySync

theorem Except.bind_eq_ok {ε α β : Type} {x : Except ε α} {f : α → Except ε β} {b : β} :
    x >>= f = .ok b ↔ ∃ a, x = .ok a ∧ f a = .ok b := by
  cases x <;> simp [bind, Except.bind]

theorem Except.mapError_eq_ok {ε ε' α : Type} {x : Except ε α} {f : ε → ε'} {a : α} :
    x.mapError f = .ok a ↔ x = .ok a := by
  cases x <;> simp [Except.mapError]

namespace Buffer

/-- The buffer with `bs` written after its bytes. -/
def appended (b : Buffer) (bs : Bytes) : Buffer := { b with data := b.data ++ bs }

/-- `n` more bytes fit: the size they would bring the buffer to, counted as a machine size,
is within the capacity. -/
def Fits (b : Buffer) (n : Nat) : Prop := satAdd b.data.length n ≤ b.capacity

variable {b : Buffer} {bs cs : Bytes} {m n : Nat}

@[simp] theorem appended_data : (b.appended bs).data = b.data ++ bs := rfl

@[simp] theorem appended_capacity : (b.appended bs).capacity = b.capacity := rfl

@[simp] theorem appended_readPos : (b.appended bs).readPos = b.readPos := rfl

@[simp] theorem appended_nil : b.appended [] = b := by
  simp [appended]

@[simp] theorem appended_appended : (b.appended bs).appended cs = b.appended (bs ++ cs) := by
  simp [appended]

theorem appended_inj (h : b.appended bs = b.appended cs) : bs = cs :=
  List.append_cancel_left (congrArg Buffer.data h)

theorem Fits.mono (h : b.Fits n) (hle : m ≤ n) : b.Fits m := by
  unfold Fits satAdd at *
  omega

theorem Fits.appended (h : b.Fits (bs.length + n)) : (b.appended bs).Fits n := by
  unfold Fits satAdd at *
  simp only [appended_data, List.length_append, appended_capacity]
  omega

theorem write_of_fits (h : b.Fits bs.length) : b.write bs = .ok (b.appended bs) := by
  have h' : ¬ b.capacity < satAdd b.data.length bs.length := Nat.not_lt.mpr h
  simp [Buffer.write, Buffer.ensureFree, h', Buffer.appended, bind, Except.bind, pure, Except.pure]

theorem write_of_not_fits (h : ¬ b.Fits bs.length) :
    b.write bs = .error (.bufferOverflow (satAdd b.data.length bs.length) b.capacity) := by
  have h' : b.capacity < satAdd b.data.length bs.length := Nat.lt_of_not_le h
  simp [Buffer.write, Buffer.ensureFree, h', bind, Except.bind]

end Buffer

/-- Results of runs compare by `decide`, so a run on a fixed buffer can be checked. -/
instance instDecidableEqRunResult {ε σ α : Type} [DecidableEq ε] [DecidableEq σ] [DecidableEq α] :
    DecidableEq (EStateM.Result ε σ α)
  | .ok a s, .ok a' s' =>
    if h : a = a' ∧ s = s' then isTrue (by rw [h.1, h.2]) else isFalse fun he => by cases he; exact h ⟨rfl, rfl⟩
  | .error e s, .error e' s' =>
    if h : e = e' ∧ s = s' then isTrue (by rw [h.1, h.2]) else isFalse fun he => by cases he; exact h ⟨rfl, rfl⟩
  | .ok _ _, .error _ _ => isFalse fun he => by cases he
  | .error _ _, .ok _ _ => isFalse fun he => by cases he

namespace WriteM

variable {ε ε' α β : Type} {x : WriteM ε α} {b b' : Buffer} {a : α} {e : ε}

@[simp] theorem run_pure (b : Buffer) : (pure a : WriteM ε α).run b = .ok a b := rfl

@[simp] theorem run_throw (b : Buffer) : (throw e : WriteM ε α).run b = .error e b := rfl

@[simp] theorem run_get (b : Buffer) : (get : WriteM ε Buffer).run b = .ok b b := rfl

theorem run_bind_ok (h : x.run b = .ok a b') (f : α → WriteM ε β) :
    (x >>= f).run b = (f a).run b' := by
  simp only [EStateM.run] at h ⊢
  simp only [bind, EStateM.bind, h]

theorem run_bind_error (h : x.run b = .error e b') (f : α → WriteM ε β) :
    (x >>= f).run b = .error e b' := by
  simp only [EStateM.run] at h ⊢
  simp only [bind, EStateM.bind, h]

theorem run_adaptExcept_ok (h : x.run b = .ok a b') (f : ε → ε') :
    (x.adaptExcept f).run b = .ok a b' := by
  simp only [EStateM.run] at h ⊢
  simp only [EStateM.adaptExcept, h]

theorem run_adaptExcept_error (h : x.run b = .error e b') (f : ε → ε') :
    (x.adaptExcept f).run b = .error (f e) b' := by
  simp only [EStateM.run] at h ⊢
  simp only [EStateM.adaptExcept, h]

@[simp] theorem run_liftExcept_ok (b : Buffer) :
    (liftExcept (Except.ok a : Except ε α) : WriteM ε α).run b = .ok a b := rfl

@[simp] theorem run_liftExcept_error (b : Buffer) :
    (liftExcept (Except.error e : Except ε α) : WriteM ε α).run b = .error e b := rfl

/-! Inversions: what a successful run of a composite step says about its parts. -/

theorem run_bind_eq_ok {f : α → WriteM ε β} {c : β} (h : (x >>= f).run b = .ok c b') :
    ∃ a b₁, x.run b = .ok a b₁ ∧ (f a).run b₁ = .ok c b' := by
  simp only [EStateM.run] at h ⊢
  cases hx : x b with
  | ok a b₁ => simp only [bind, EStateM.bind, hx] at h; exact ⟨a, b₁, rfl, h⟩
  | error e b₁ => simp [bind, EStateM.bind, hx] at h

theorem run_adaptExcept_eq_ok {f : ε → ε'} (h : (x.adaptExcept f).run b = .ok a b') :
    x.run b = .ok a b' := by
  simp only [EStateM.run] at h ⊢
  cases hx : x b with
  | ok a₁ b₁ => simpa [EStateM.adaptExcept, hx] using h
  | error e b₁ => simp [EStateM.adaptExcept, hx] at h

theorem run_liftExcept_eq_ok {r : Except ε α} (h : (liftExcept r : WriteM ε α).run b = .ok a b') :
    r = .ok a ∧ b' = b := by
  cases r <;> simp_all [liftExcept, EStateM.run, throw, throwThe, MonadExceptOf.throw,
    EStateM.throw, pure, EStateM.pure]

theorem write_run_of_fits (h : b.Fits bs.length) : (write bs).run b = .ok () (b.appended bs) := by
  simp [write, EStateM.run, Buffer.write_of_fits h]

theorem write_run_of_not_fits (h : ¬ b.Fits bs.length) :
    ∃ e, (write bs).run b = .error e b :=
  ⟨.bufferOverflow (satAdd b.data.length bs.length) b.capacity,
    by simp [write, EStateM.run, Buffer.write_of_not_fits h]⟩

theorem ensureFree_run_of_fits (h : b.Fits n) : (ensureFree n).run b = .ok () b := by
  have h' : ¬ b.capacity < satAdd b.data.length n := Nat.not_lt.mpr h
  simp [ensureFree, EStateM.run, Buffer.ensureFree, h']

theorem ensureFree_run_of_not_fits (h : ¬ b.Fits n) : ∃ e, (ensureFree n).run b = .error e b := by
  have h' : b.capacity < satAdd b.data.length n := Nat.lt_of_not_le h
  exact ⟨.bufferOverflow (satAdd b.data.length n) b.capacity,
    by simp [ensureFree, EStateM.run, Buffer.ensureFree, h']⟩

theorem write_run_eq_ok {u : Unit} (h : (write bs).run b = .ok u b') : b' = b.appended bs := by
  by_cases hfit : b.Fits bs.length
  · rw [write_run_of_fits hfit] at h
    cases h
    rfl
  · obtain ⟨e, he⟩ := write_run_of_not_fits hfit
    rw [he] at h
    cases h

theorem ensureFree_run_eq_ok {n : Nat} {b b' : Buffer} {u : Unit}
    (h : (ensureFree n).run b = .ok u b') : b.Fits n ∧ b' = b := by
  by_cases hfit : b.Fits n
  · rw [ensureFree_run_of_fits hfit] at h
    cases h
    exact ⟨hfit, rfl⟩
  · obtain ⟨e, he⟩ := ensureFree_run_of_not_fits hfit
    rw [he] at h
    cases h

/-- A string that passes its own checks is written as the checked write of its bytes and its
terminator: the room is checked once for both, before either is appended. -/
theorem writeString_run (text : String) (maxLen : Nat) (b : Buffer) :
    (writeString text maxLen).run b =
      if maxLen < (encodeUtf8 text).length ∨ (encodeUtf8 text).contains 0 then
        .error (.stringTooLong (encodeUtf8 text).length maxLen) b
      else (write (encodeUtf8 text ++ [0])).run b := by
  by_cases hbad : maxLen < (encodeUtf8 text).length ∨ (encodeUtf8 text).contains 0
  · simp only [hbad, if_true, writeString]
    rfl
  · simp only [hbad, if_false, writeString]
    by_cases hfit : b.Fits ((encodeUtf8 text).length + 1)
    · rw [write_run_of_fits (by simpa using hfit)]
      simp [EStateM.run, bind, EStateM.bind, ensureFree, Buffer.ensureFree, Nat.not_lt.mpr hfit,
        extend, modify, modifyGet, MonadStateOf.modifyGet, EStateM.modifyGet, Buffer.appended]
    · have h' : b.capacity < satAdd b.data.length ((encodeUtf8 text).length + 1) :=
        Nat.lt_of_not_le hfit
      simp [EStateM.run, bind, EStateM.bind, ensureFree, Buffer.ensureFree, h', write,
        Buffer.write, Except.bind]

/-- When its bytes fit, the step writes exactly `bs` and returns `a`. -/
def Writes (x : WriteM ε α) (bs : Bytes) (a : α) : Prop :=
  ∀ b : Buffer, b.Fits bs.length → x.run b = .ok a (b.appended bs)

namespace Writes

variable {f : α → WriteM ε β} {bs cs : Bytes} {c : β}

theorem write : Writes (write bs) bs () := fun _ h => write_run_of_fits h

theorem pure : Writes (Pure.pure a : WriteM ε α) [] a := fun b _ => by simp

theorem bind (hx : Writes x bs a) (hf : Writes (f a) cs c) : Writes (x >>= f) (bs ++ cs) c := by
  intro b h
  rw [List.length_append] at h
  rw [run_bind_ok (hx b (h.mono (Nat.le_add_right _ _))), hf _ h.appended,
    Buffer.appended_appended]

theorem ensureFree_bind {n : Nat} {f : Unit → WriteM StreamError β} (hf : Writes (f ()) bs c)
    (hn : n = bs.length) : Writes (ensureFree n >>= f) bs c := by
  intro b h
  rw [run_bind_ok (ensureFree_run_of_fits (hn ▸ h)), hf b h]

theorem adaptExcept (hx : Writes x bs a) (g : ε → ε') : Writes (x.adaptExcept g) bs a :=
  fun b h => run_adaptExcept_ok (hx b h) g

end Writes

/-- The step fails leaving the buffer as it was, or succeeds having appended to it. -/
def Appends (x : WriteM ε α) : Prop :=
  ∀ b, (∃ e, x.run b = .error e b) ∨ ∃ a bs, x.run b = .ok a (b.appended bs)

/-- As `Appends`, and the number the step returns is the number of bytes it appended. -/
def AppendsCounted (x : WriteM ε Nat) : Prop :=
  ∀ b, (∃ e, x.run b = .error e b) ∨ ∃ bs, x.run b = .ok bs.length (b.appended bs)

theorem AppendsCounted.appends {x : WriteM ε Nat} (h : AppendsCounted x) : Appends x := by
  intro b
  rcases h b with ⟨e, he⟩ | ⟨bs, hbs⟩
  · exact .inl ⟨e, he⟩
  · exact .inr ⟨_, bs, hbs⟩

theorem AppendsCounted.adaptExcept {x : WriteM ε Nat} (h : AppendsCounted x) (g : ε → ε') :
    AppendsCounted (x.adaptExcept g) := by
  intro b
  rcases h b with ⟨e, he⟩ | ⟨bs, hbs⟩
  · exact .inl ⟨g e, run_adaptExcept_error he g⟩
  · exact .inr ⟨bs, run_adaptExcept_ok hbs g⟩

theorem Appends.bind_pure (hx : Appends x) (g : α → β) : Appends (x >>= fun a => pure (g a)) := by
  intro b
  rcases hx b with ⟨e, he⟩ | ⟨a, bs, hbs⟩
  · exact .inl ⟨e, run_bind_error he _⟩
  · exact .inr ⟨g a, bs, by rw [run_bind_ok hbs]; rfl⟩

theorem Appends.adaptExcept (hx : Appends x) (g : ε → ε') : Appends (x.adaptExcept g) := by
  intro b
  rcases hx b with ⟨e, he⟩ | ⟨a, bs, hbs⟩
  · exact .inl ⟨g e, run_adaptExcept_error he g⟩
  · exact .inr ⟨a, bs, run_adaptExcept_ok hbs g⟩

theorem write_appends (bs : Bytes) : Appends (write bs) := by
  intro b
  by_cases h : b.Fits bs.length
  · exact .inr ⟨(), bs, write_run_of_fits h⟩
  · exact .inl (write_run_of_not_fits h)

/-- A step that first computes something without touching the buffer inherits `Appends` from
what it does next. -/
theorem appends_liftExcept_bind {r : Except ε α} {f : α → WriteM ε β}
    (hf : ∀ a, r = .ok a → Appends (f a)) : Appends (liftExcept r >>= f) := by
  intro b
  cases r with
  | error e => exact .inl ⟨e, run_bind_error (run_liftExcept_error b) f⟩
  | ok a => rw [run_bind_ok (run_liftExcept_ok b) f]; exact hf a rfl b

theorem appendsCounted_liftExcept_bind {r : Except ε α} {f : α → WriteM ε Nat}
    (hf : ∀ a, r = .ok a → AppendsCounted (f a)) : AppendsCounted (liftExcept r >>= f) := by
  intro b
  cases r with
  | error e => exact .inl ⟨e, run_bind_error (run_liftExcept_error b) f⟩
  | ok a => rw [run_bind_ok (run_liftExcept_ok b) f]; exact hf a rfl b

theorem ensureFree_adaptExcept_run_of_not_fits {n : Nat} (h : ¬ b.Fits n) (g : StreamError → ε) :
    ∃ e, ((ensureFree n).adaptExcept g).run b = .error e b := by
  obtain ⟨e, he⟩ := ensureFree_run_of_not_fits h
  exact ⟨g e, run_adaptExcept_error he g⟩

theorem Writes.ensureFree_adaptExcept_bind {n : Nat} {g : StreamError → ε} {bs : Bytes} {c : β}
    {f : Unit → WriteM ε β} (hf : Writes (f ()) bs c) (hn : n = bs.length) :
    Writes ((ensureFree n).adaptExcept g >>= f) bs c := by
  intro b h
  rw [run_bind_ok (run_adaptExcept_ok (ensureFree_run_of_fits (hn ▸ h)) g), hf b h]

/-- A step that checks the room for exactly the bytes it then writes fails, if it fails at all,
before writing anything. -/
theorem Writes.appendsCounted_ensureFree_bind {n c : Nat} {g : StreamError → ε} {bs : Bytes}
    {f : Unit → WriteM ε Nat} (hf : Writes (f ()) bs c) (hn : n = bs.length) (hc : c = bs.length) :
    AppendsCounted ((ensureFree n).adaptExcept g >>= f) := by
  subst hc
  intro b
  by_cases h : b.Fits bs.length
  · exact .inr ⟨bs, Writes.ensureFree_adaptExcept_bind hf hn b h⟩
  · obtain ⟨e, he⟩ := ensureFree_adaptExcept_run_of_not_fits (hn ▸ h) g
    exact .inl ⟨e, run_bind_error he f⟩

theorem Writes.appends_ensureFree_bind {n : Nat} {g : StreamError → ε} {bs : Bytes} {c : β}
    {f : Unit → WriteM ε β} (hf : Writes (f ()) bs c) (hn : n = bs.length) :
    Appends ((ensureFree n).adaptExcept g >>= f) := by
  intro b
  by_cases h : b.Fits bs.length
  · exact .inr ⟨c, bs, Writes.ensureFree_adaptExcept_bind hf hn b h⟩
  · obtain ⟨e, he⟩ := ensureFree_adaptExcept_run_of_not_fits (hn ▸ h) g
    exact .inl ⟨e, run_bind_error he f⟩

end WriteM

open WriteM

theorem length_packFlags (flags : List Bool) : (packFlags flags).length = maskLen flags.length := by
  fun_induction packFlags flags with
  | case1 flags h => simp_all [maskLen]
  | case2 flags h ih =>
    rw [List.length_cons, ih, List.length_drop]
    simp only [maskLen]
    have : flags.length ≠ 0 := by simpa using h
    omega

namespace FieldBlock.Writer

variable {w : Writer}

theorem length_encoding (w : Writer) : w.encoding.length = w.encodedLen := by
  simp [encoding, encodedLen, length_packFlags]
  omega

theorem finishInto_writes (hw : w.error = none) : Writes w.finishInto w.encoding w.encodedLen := by
  have hw' : Writes (WriteM.writeVarint w.flags.length >>= fun _ => WriteM.write (packFlags w.flags)
      >>= fun _ => WriteM.write w.payload >>= fun _ => pure w.encodedLen)
      (encodeVarint w.flags.length ++ (packFlags w.flags ++ (w.payload ++ []))) w.encodedLen :=
    Writes.bind Writes.write (Writes.bind Writes.write (Writes.bind Writes.write Writes.pure))
  have henc : w.encoding = encodeVarint w.flags.length ++ (packFlags w.flags ++ (w.payload ++ [])) := by
    simp [encoding]
  simp only [finishInto, hw]
  rw [henc]
  exact Writes.ensureFree_bind hw' (by rw [← henc, length_encoding])

theorem finishInto_run_eq_ok {b b' : Buffer} {n : Nat} (hw : w.error = none)
    (h : w.finishInto.run b = .ok n b') : b' = b.appended w.encoding := by
  by_cases hfit : b.Fits w.encodedLen
  · rw [finishInto_writes hw b (by rwa [length_encoding])] at h
    cases h
    rfl
  · obtain ⟨e, he⟩ := ensureFree_run_of_not_fits hfit
    simp only [finishInto, hw] at h
    rw [run_bind_error he] at h
    cases h

theorem finishInto_appendsCounted (w : Writer) : AppendsCounted w.finishInto := by
  intro b
  cases hw : w.error with
  | some e => exact .inl ⟨e, by simp [finishInto, hw]⟩
  | none =>
    by_cases h : b.Fits w.encodedLen
    · refine .inr ⟨w.encoding, ?_⟩
      rw [length_encoding]
      exact finishInto_writes hw b (by rwa [length_encoding])
    · obtain ⟨e, he⟩ := ensureFree_run_of_not_fits h
      refine .inl ⟨e, ?_⟩
      simp only [finishInto, hw]
      exact run_bind_error he _

end FieldBlock.Writer

theorem Header.length_encoding (h : Header) : h.encoding.length = headerSize := by
  simp [Header.encoding, headerSize]

theorem Header.write_writes (h : Header) : Writes h.write h.encoding () := by
  have hw : Writes h.write (toLE 4 frameMagic ++ (toLE 2 h.version.toNat ++
      (toLE 2 h.flags.raw.toNat ++ (toLE 8 h.schemaHash.toNat ++ (toLE 4 h.tick.toNat ++
      (toLE 4 h.baselineTick.toNat ++ toLE 4 h.payloadLen.toNat)))))) () :=
    Writes.ensureFree_bind (Writes.bind Writes.write (Writes.bind Writes.write
      (Writes.bind Writes.write (Writes.bind Writes.write (Writes.bind Writes.write
      (Writes.bind Writes.write Writes.write)))))) (by simp [headerSize])
  simpa [Header.encoding] using hw

theorem Section.length_encoding (s : Section) : s.encoding.length = sectionLen s.body.length := by
  simp [Section.encoding, sectionLen]
  omega

theorem encodeSection_writes {tag : SectionTag} {body : Bytes} (hlen : body.length < 2 ^ (32 : Nat)) :
    Writes (encodeSection tag body) (Section.encoding ⟨tag, body⟩) (sectionLen body.length) := by
  have hw : Writes (encodeSection tag body) ([UInt8.ofNat tag.code] ++
      (encodeVarint body.length ++ (body ++ []))) (sectionLen body.length) := by
    simp only [encodeSection, if_neg (Nat.not_le.mpr hlen)]
    refine Writes.ensureFree_adaptExcept_bind ?_ ?_
    · exact Writes.bind (Writes.adaptExcept Writes.write _) (Writes.bind
        (Writes.adaptExcept Writes.write _) (Writes.bind (Writes.adaptExcept Writes.write _)
        Writes.pure))
    · simp [sectionLen]
      omega
  simpa [Section.encoding] using hw

/-- The size of the sections of a frame: its payload length. -/
def payloadSize (ss : List Section) : Nat := (ss.map fun s => sectionLen s.body.length).sum

theorem length_flatMap_encoding (ss : List Section) :
    (ss.flatMap Section.encoding).length = payloadSize ss := by
  induction ss with
  | nil => rfl
  | cons s ss ih =>
    simp only [payloadSize] at ih
    simp [payloadSize, ih, Section.length_encoding]

theorem encodeSections_writes {ss : List Section} (hp : payloadSize ss < 2 ^ (32 : Nat)) :
    Writes (encodeSections ss) (ss.flatMap Section.encoding) () := by
  induction ss with
  | nil => exact Writes.pure
  | cons s ss ih =>
    simp only [payloadSize, List.map_cons, List.sum_cons] at hp
    rw [List.flatMap_cons]
    exact Writes.bind (encodeSection_writes (by simp only [sectionLen] at hp; omega))
      (ih (by simp only [payloadSize]; omega))

/-- A frame whose payload length fits 32 bits is written as its header, with that length, and
its sections. -/
theorem encodeFrame_writes {h : Header} {ss : List Section} (hp : payloadSize ss < 2 ^ (32 : Nat)) :
    Writes (encodeFrame h ss)
      ({ h with payloadLen := UInt32.ofNat (payloadSize ss) }.encoding ++ ss.flatMap Section.encoding)
      (headerSize + payloadSize ss) := by
  simp only [payloadSize] at hp ⊢
  simp only [encodeFrame, if_neg (Nat.not_le.mpr hp)]
  refine Writes.ensureFree_adaptExcept_bind ?_ ?_
  · rw [← List.append_nil (ss.flatMap Section.encoding)]
    exact Writes.bind (Writes.adaptExcept (Header.write_writes _) _)
      (Writes.bind (encodeSections_writes hp) Writes.pure)
  · rw [List.length_append, Header.length_encoding, length_flatMap_encoding, payloadSize]

theorem length_frame (h : Header) (ss : List Section) :
    ({ h with payloadLen := UInt32.ofNat (payloadSize ss) }.encoding ++
      ss.flatMap Section.encoding).length = headerSize + payloadSize ss := by
  rw [List.length_append, Header.length_encoding, length_flatMap_encoding]

theorem encodeFrame_run_of_not_writable {h : Header} {ss : List Section} {b : Buffer}
    (hw : ¬(payloadSize ss < 2 ^ (32 : Nat) ∧ b.Fits (headerSize + payloadSize ss))) :
    ∃ e, (encodeFrame h ss).run b = .error e b := by
  by_cases hp : payloadSize ss < 2 ^ (32 : Nat)
  · have hfit : ¬b.Fits (headerSize + payloadSize ss) := fun hfit => hw ⟨hp, hfit⟩
    obtain ⟨e, he⟩ := ensureFree_adaptExcept_run_of_not_fits hfit FrameEncodeError.overflow
    refine ⟨e, ?_⟩
    simp only [payloadSize] at hp he
    simp only [encodeFrame, if_neg (Nat.not_le.mpr hp)]
    exact run_bind_error he _
  · refine ⟨.lengthOverflow (payloadSize ss), ?_⟩
    simp only [payloadSize] at hp ⊢
    simp only [encodeFrame, if_pos (Nat.le_of_not_lt hp)]
    rfl

theorem encodeFrame_appendsCounted (h : Header) (ss : List Section) :
    AppendsCounted (encodeFrame h ss) := by
  intro b
  by_cases hw : payloadSize ss < 2 ^ (32 : Nat) ∧ b.Fits (headerSize + payloadSize ss)
  · refine .inr ⟨{ h with payloadLen := UInt32.ofNat (payloadSize ss) }.encoding ++
      ss.flatMap Section.encoding, ?_⟩
    rw [length_frame]
    exact encodeFrame_writes hw.1 b (by rw [length_frame]; exact hw.2)
  · exact .inl (encodeFrame_run_of_not_writable hw)

/-- A frame that was written is its header, with the payload length filled in, and its
sections. -/
theorem encodeFrame_run_eq_ok {h : Header} {ss : List Section} {b b' : Buffer} {n : Nat}
    (hrun : (encodeFrame h ss).run b = .ok n b') :
    payloadSize ss < 2 ^ (32 : Nat) ∧ n = headerSize + payloadSize ss ∧
      b' = b.appended ({ h with payloadLen := UInt32.ofNat (payloadSize ss) }.encoding ++
        ss.flatMap Section.encoding) := by
  by_cases hw : payloadSize ss < 2 ^ (32 : Nat) ∧ b.Fits (headerSize + payloadSize ss)
  · rw [encodeFrame_writes hw.1 b (by rw [length_frame]; exact hw.2)] at hrun
    cases hrun
    exact ⟨hw.1, rfl, rfl⟩
  · obtain ⟨e, he⟩ := encodeFrame_run_of_not_writable (h := h) hw
    rw [he] at hrun
    cases hrun

end EntitySync
