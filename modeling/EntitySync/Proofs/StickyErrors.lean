import EntitySync.Proofs.FieldGrammar
/-!
# Failures that stick

A field-block writer and a field-block reader keep their first failure. Once it is kept, every
further call on the writer changes nothing, and finishing the writer reports the failure and
writes nothing; every further call on the reader answers a clear flag, zeros in place of the
bytes asked for, or the empty string, and leaves the reader, its cursor included, as it was, and
finishing the reader reports the failure. A decoder can therefore read a whole record and check
once, at its end. `field_block_errors_stick` says so for every sequence of calls.

The writer's failure never trips while an entity's block is composed from well-typed states of
a validated schema: the block declares one flag per leaf, which is the writer's field budget,
and its payload is at most the schema's largest payload, which is the writer's payload budget.
`composeFields_never_trips` says so, and that writing the block then fails only for want of room
in the output.
-/

namespace EntitySync

open FieldBlock WriteM

/-! ## Calls on a writer -/

namespace FieldBlock.Writer

/-- A call that adds to a writer. -/
inductive Call where
  | addBit (present : Bool)
  | addBytes (bytes : Bytes)
  deriving DecidableEq, Repr

/-- The writer after a call. -/
def apply (w : Writer) : Call → Writer
  | .addBit present => w.addBit present
  | .addBytes bytes => w.addBytes bytes

/-- The writer after calls in turn. -/
def run (w : Writer) (calls : List Call) : Writer := calls.foldl apply w

variable {w : Writer} {e : StreamError}

@[simp] theorem run_nil (w : Writer) : w.run [] = w := rfl

@[simp] theorem run_cons (w : Writer) (c : Call) (calls : List Call) :
    w.run (c :: calls) = (w.apply c).run calls := rfl

theorem run_append (w : Writer) (calls more : List Call) :
    w.run (calls ++ more) = (w.run calls).run more := List.foldl_append

theorem apply_of_error (h : w.error = some e) (c : Call) : w.apply c = w := by
  cases c <;> simp [apply, addBit, addBytes, h]

theorem run_of_error (h : w.error = some e) (calls : List Call) : w.run calls = w := by
  induction calls with
  | nil => rfl
  | cons c calls ih => rw [run_cons, apply_of_error h, ih]

theorem finishInto_run_of_error (h : w.error = some e) (out : Buffer) :
    w.finishInto.run out = .error e out := by
  simp [finishInto, h]

/-- A writer with no failure appends its block when the output has room for it, and otherwise
reports the output's overflow and leaves the output as it was. -/
theorem finishInto_run_of_clean (hw : w.error = none) (out : Buffer) :
    w.finishInto.run out =
      if out.Fits w.encodedLen then .ok w.encodedLen (out.appended w.encoding)
      else .error (.bufferOverflow (satAdd out.data.length w.encodedLen) out.capacity) out := by
  split
  · next hfit => exact finishInto_writes hw out (by rwa [length_encoding])
  · next hfit =>
    simp only [finishInto, hw]
    exact run_bind_error (ensureFree_run_of_not_fits_eq hfit) _

end FieldBlock.Writer

/-! ## Calls on a reader -/

namespace FieldBlock.Reader

/-- A call on a reader. -/
inductive Call where
  | getBit
  | getBytes (n : Nat)
  | getString (maxLen : Nat)
  | setError (e : StreamError)
  deriving DecidableEq, Repr

/-- What a call on a reader gives back. -/
inductive Reply where
  | bit (b : Bool)
  | bytes (bs : Bytes)
  | text (s : String)
  | done
  deriving DecidableEq, Repr

/-- The reply to a call once a failure is kept: a clear flag, zeros in place of the bytes asked
for, the empty string. -/
def Call.blankReply : Call → Reply
  | .getBit => .bit false
  | .getBytes n => .bytes (List.replicate n 0)
  | .getString _ => .text ""
  | .setError _ => .done

/-- A call's reply and the reader after it. -/
def apply (r : Reader) : Call → Reply × Reader
  | .getBit => let (b, r) := r.getBit; (.bit b, r)
  | .getBytes n => let (bs, r) := r.getBytes n; (.bytes bs, r)
  | .getString maxLen => let (s, r) := r.getString maxLen; (.text s, r)
  | .setError e => (.done, r.setError e)

/-- The replies to calls in turn, and the reader after them. -/
def run (r : Reader) : List Call → List Reply × Reader
  | [] => ([], r)
  | c :: calls =>
    let (y, r) := r.apply c
    let (ys, r) := r.run calls
    (y :: ys, r)

variable {r : Reader} {e : StreamError}

theorem run_append (r : Reader) (calls more : List Call) :
    r.run (calls ++ more) =
      ((r.run calls).1 ++ ((r.run calls).2.run more).1, ((r.run calls).2.run more).2) := by
  induction calls generalizing r with
  | nil => rfl
  | cons c calls ih => simp [run, ih]

theorem apply_of_error (h : r.error = some e) (c : Call) : r.apply c = (c.blankReply, r) := by
  have hs : r.error.isSome := by simp [h]
  cases c <;>
    simp [apply, Call.blankReply, getBit_of_error hs, getBytes_of_error hs,
      getString_of_error hs, setError_of_error hs]

/-- A reader that has failed gives the blank reply to every call of a sequence and stays as it
was. -/
theorem run_of_error (h : r.error = some e) (calls : List Call) :
    r.run calls = (calls.map Call.blankReply, r) := by
  induction calls with
  | nil => rfl
  | cons c calls ih => simp [run, apply_of_error h, ih]

theorem finish_of_error (h : r.error = some e) : r.finish = .error e := by
  simp [finish, h]

end FieldBlock.Reader

/-- Sticky failures: once a field-block writer or reader has failed, later calls change nothing
and finishing reports that failure. -/
theorem field_block_errors_stick :
    (∀ (w : Writer) (calls more : List Writer.Call) (e : StreamError),
      (w.run calls).error = some e →
        w.run (calls ++ more) = w.run calls ∧
          ∀ out, (w.run (calls ++ more)).finishInto.run out = .error e out) ∧
    (∀ (r : Reader) (calls more : List Reader.Call) (e : StreamError),
      (r.run calls).2.error = some e →
        r.run (calls ++ more) =
            ((r.run calls).1 ++ more.map Reader.Call.blankReply, (r.run calls).2) ∧
          (r.run (calls ++ more)).2.finish = .error e) := by
  refine ⟨fun w calls more e h => ?_, fun r calls more e h => ?_⟩
  · have hrun : w.run (calls ++ more) = w.run calls := by
      rw [Writer.run_append, Writer.run_of_error h]
    exact ⟨hrun, fun out => hrun ▸ Writer.finishInto_run_of_error h out⟩
  · have hrun : r.run (calls ++ more) =
        ((r.run calls).1 ++ more.map Reader.Call.blankReply, (r.run calls).2) := by
      rw [Reader.run_append, Reader.run_of_error h]
    exact ⟨hrun, by rw [hrun]; exact Reader.finish_of_error h⟩

/-- A writer with room for two payload bytes overflows on three, and a reader of a one-field
block runs out of bytes for a two-byte payload; the calls after that are ignored. -/
theorem field_block_errors_stick_short :
    let w := (Writer.new 2).withMaxFields 1
    let wcalls : List Writer.Call := [.addBit true, .addBytes [7, 8, 9]]
    let wmore : List Writer.Call := [.addBit false, .addBytes [1]]
    let r := Reader.begin (Cursor.init [1, 1, 5]) 8
    let rcalls : List Reader.Call := [.getBit, .getBytes 2]
    let rmore : List Reader.Call := [.getBit, .getString 4, .setError (.rangeViolation 1 2), .getBytes 3]
    ((w.run wcalls).error = some (.bufferOverflow 3 2) ∧
      w.run (wcalls ++ wmore) = w.run wcalls ∧
      ∀ out, (w.run (wcalls ++ wmore)).finishInto.run out = .error (.bufferOverflow 3 2) out) ∧
    ((r.run rcalls).2.error = some (.unexpectedEnd 2 1) ∧
      r.run (rcalls ++ rmore) =
        ((r.run rcalls).1 ++ rmore.map Reader.Call.blankReply, (r.run rcalls).2) ∧
      (r.run (rcalls ++ rmore)).2.finish = .error (.unexpectedEnd 2 1)) := by
  intro w wcalls wmore r rcalls rmore
  have hw : (w.run wcalls).error = some (.bufferOverflow 3 2) := by decide
  have hr : (r.run rcalls).2.error = some (.unexpectedEnd 2 1) := by decide
  exact ⟨⟨hw, field_block_errors_stick.1 w wcalls wmore _ hw⟩,
    ⟨hr, field_block_errors_stick.2 r rcalls rmore _ hr⟩⟩

/-! ## Composing a block stays within the writer's budgets -/

variable {schema : Schema}

theorem length_changedBytes_le {fs : List Field} {bs vs : List FieldValue}
    (h : LeavesFit fs bs vs) : (changedBytes fs bs vs).length ≤ (fs.map (·.kind.maxWireSize)).sum := by
  fun_induction changedBytes fs bs vs with
  | case1 f fs b bs v vs ih =>
    obtain ⟨-, hv, hfit⟩ := h
    have hleaf := FieldValue.length_bytesAs_le hv
    have hrest := ih hfit
    simp only [List.length_append, List.map_cons, List.sum_cons]
    split
    · -- an unchanged leaf adds no bytes
      rw [List.length_nil]
      omega
    · omega
  | case2 => simp

/-- Writing a composed block with no failure: it is appended when the output has room for it,
and otherwise the output's overflow is reported with the output as it was. -/
theorem encodeFields_run_of_composeFields {baseline : Option EntityState} {current : EntityState}
    {w : Writer} {changed : Nat} (hc : composeFields schema baseline current = .ok (w, changed))
    (hw : w.error = none) (out : Buffer) :
    (encodeFields schema baseline current).run out =
      if out.Fits w.encodedLen then .ok changed (out.appended w.encoding)
      else .error (.stream (.bufferOverflow (satAdd out.data.length w.encodedLen) out.capacity))
        out := by
  simp only [encodeFields, hc]
  rw [run_bind_ok (run_liftExcept_ok out)]
  have hfin := Writer.finishInto_run_of_clean hw out
  split
  · next hfit =>
    rw [if_pos hfit] at hfin
    rw [run_bind_ok (run_adaptExcept_ok hfin _)]
    rfl
  · next hfit =>
    rw [if_neg hfit] at hfin
    rw [run_bind_error (run_adaptExcept_error hfin _)]

/-- Composing a block from well-typed states never trips the writer's budgets, so writing it fails
only for lack of room in the output. -/
theorem composeFields_never_trips {baseline : Option EntityState} {current : EntityState}
    (hvalid : schema.validate = .ok ()) (hbase : ∀ b, baseline = some b → b.WellTyped schema)
    (hcur : current.WellTyped schema) :
    ∃ w changed,
      composeFrom 0 schema.fields (baseline.getD (EntityState.zeroed schema)).values current.values
          ((Writer.new schema.maxPayloadLen).withMaxFields schema.len) 0 = .ok (w, changed) ∧
        w.error = none ∧ w.fieldCount = schema.len ∧ w.maxFields = schema.len ∧
        w.payload.length ≤ schema.maxPayloadLen ∧
        composeFields schema baseline current = .ok (w, changed) ∧
        ∀ out e out', (encodeFields schema baseline current).run out = .error e out' →
          ¬ out.Fits w.encodedLen ∧
            e = .stream (.bufferOverflow (satAdd out.data.length w.encodedLen) out.capacity) ∧
            out' = out := by
  have hbwt := EntityState.wellTyped_getD hvalid hbase
  have hlen : schema.len ≤ maxSchemaFields := (Schema.validate_eq_ok hvalid).1
  have hcomp := composeFields_eq_ok_of_wellTyped hvalid hbase hcur
  refine ⟨_, _, composeFrom_fresh_eq_ok hvalid hbwt hcur, rfl, length_changeFlags hbwt.1 hcur.1, ?_,
    length_changedBytes_le (leavesFit_of_forall hbwt.2 hcur.2), hcomp, ?_⟩
  · -- a validated schema has fewer leaves than a block can declare, so the budget is not cut
    simp only [composedWriter, maxSchemaFields, maxBlockFields] at hlen ⊢
    omega
  · intro out e out' h
    rw [encodeFields_run_of_composeFields hcomp rfl out] at h
    split at h
    · cases h
    · next hfit =>
      cases h
      exact ⟨hfit, rfl, rfl⟩

/-- A unit that lost hit points and turned, against its baseline. -/
theorem composeFields_never_trips_units :
    let before : EntityState := ⟨[.u16 100, .f32 Binary32.zero, .str "ann"]⟩
    let after : EntityState := ⟨[.u16 90, .f32 ⟨0x3fc00000⟩, .str "ann"]⟩
    unitSchema.validate = .ok () ∧ before.WellTyped unitSchema ∧ after.WellTyped unitSchema ∧
      ∃ w changed,
        composeFrom 0 unitSchema.fields before.values after.values
            ((Writer.new unitSchema.maxPayloadLen).withMaxFields unitSchema.len) 0 = .ok (w, changed) ∧
          w.error = none ∧ w.fieldCount = unitSchema.len ∧ w.maxFields = unitSchema.len ∧
          w.payload.length ≤ unitSchema.maxPayloadLen ∧
          composeFields unitSchema (some before) after = .ok (w, changed) ∧
          ∀ out e out', (encodeFields unitSchema (some before) after).run out = .error e out' →
            ¬ out.Fits w.encodedLen ∧
              e = .stream (.bufferOverflow (satAdd out.data.length w.encodedLen) out.capacity) ∧
              out' = out := by
  intro before after
  have hvalid : unitSchema.validate = .ok () := by decide
  have hb : before.WellTyped unitSchema := by decide
  have hc : after.WellTyped unitSchema := by decide
  exact ⟨hvalid, hb, hc, composeFields_never_trips hvalid (fun b h => Option.some.inj h ▸ hb) hc⟩

end EntitySync
