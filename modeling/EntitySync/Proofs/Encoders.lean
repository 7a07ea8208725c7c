import EntitySync.Proofs.FieldBlock
/-!
# Encoders write whole or not at all

Every encoder of the codec either fails and leaves its output buffer exactly as it was, or
succeeds having appended to it; the body and message encoders also return the number of bytes
they appended. This holds whatever the inputs: schemas, states of any length or value types,
snapshots, message kinds, config strings, limits and earlier contents of the buffer.

Each encoder computes and checks all it can before it writes, then checks the room for the
whole of what it writes, and then writes it in parts. The parts always fit, because their sizes
add up to the size that was checked (`WriteM.Writes`).
-/

namespace EntitySync

open WriteM

theorem encodeFields_appends (schema : Schema) (baseline : Option EntityState)
    (current : EntityState) : Appends (encodeFields schema baseline current) := by
  unfold encodeFields
  refine appends_liftExcept_bind fun ⟨w, changed⟩ _ => ?_
  exact (((FieldBlock.Writer.finishInto_appendsCounted w).adaptExcept _).appends).bind_pure
    fun _ => changed

theorem encodeEntity_appends (schema : Schema) (baseline current : Option EntityState) :
    Appends (encodeEntity schema baseline current) := by
  unfold encodeEntity
  cases current with
  | none => exact ((write_appends [0]).adaptExcept _).bind_pure fun _ => 0
  | some cur =>
    refine appends_liftExcept_bind fun ⟨w, changed⟩ hw => ?_
    obtain ⟨_, _, _, hnone, -⟩ := composeFields_ok hw
    have hfin := FieldBlock.Writer.finishInto_writes hnone
    apply Writes.appends_ensureFree_bind
    case hf =>
      exact Writes.bind (Writes.adaptExcept Writes.write _)
        (Writes.bind (Writes.adaptExcept hfin _) Writes.pure)
    case hn =>
      simp [FieldBlock.Writer.length_encoding]
      omega

theorem encodeBody_appendsCounted (schema : Schema) (baseline current : Snapshot)
    (limits : CodecLimits) : AppendsCounted (encodeBody schema baseline current limits) := by
  intro b
  unfold encodeBody
  rw [run_bind_ok (run_get b)]
  cases hstage : (stageEntries schema limits (mergeSlots baseline.entities current.entities) 0).run
    (Buffer.empty b.free) with
  | error e staged =>
    simp only [hstage]
    exact .inl ⟨e, rfl⟩
  | ok count staged =>
    simp only [hstage]
    split
    · exact .inl ⟨_, rfl⟩
    · apply Writes.appendsCounted_ensureFree_bind
      case hf =>
        exact Writes.bind (Writes.adaptExcept Writes.write _)
          (Writes.bind (Writes.adaptExcept Writes.write _) Writes.pure)
      case hn => simp [Buffer.size]
      case hc => simp [Buffer.size]

theorem encodeFullBody_appendsCounted (schema : Schema) (current : Snapshot)
    (limits : CodecLimits) : AppendsCounted (encodeFullBody schema current limits) :=
  encodeBody_appendsCounted schema _ current limits

theorem encodeSnapshotMessage_appendsCounted (schema : Schema) (kind : MessageKind)
    (current : Snapshot) (config : List ConfigEntry) (limits : CodecLimits)
    (frameLimits : FrameLimits) :
    AppendsCounted (encodeSnapshotMessage schema kind current config limits frameLimits) := by
  unfold encodeSnapshotMessage
  exact appendsCounted_liftExcept_bind fun ⟨header, sections⟩ _ =>
    (encodeFrame_appendsCounted header sections).adaptExcept _

/-- Every encoder of the codec fails leaving its output as it was, or succeeds having appended to
it; the body and message encoders return the number of bytes they appended. -/
theorem codec_encoders_all_or_nothing (schema : Schema) (baseline current : Option EntityState)
    (state : EntityState) (B C : Snapshot) (kind : MessageKind) (config : List ConfigEntry)
    (limits : CodecLimits) (frameLimits : FrameLimits) :
    Appends (encodeFields schema baseline state) ∧ Appends (encodeEntity schema baseline current) ∧
      AppendsCounted (encodeBody schema B C limits) ∧
      AppendsCounted (encodeFullBody schema C limits) ∧
      AppendsCounted (encodeSnapshotMessage schema kind C config limits frameLimits) :=
  ⟨encodeFields_appends schema baseline state, encodeEntity_appends schema baseline current,
    encodeBody_appendsCounted schema B C limits, encodeFullBody_appendsCounted schema C limits,
    encodeSnapshotMessage_appendsCounted schema kind C config limits frameLimits⟩

end EntitySync
