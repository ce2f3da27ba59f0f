import Supervision.Proofs.Output.Attribution

/-!
# Name columns

Without colours the bar of a record stands behind the name and as many blanks as make the name column
full; a name longer than the column has no blanks.  Where the bar stands for a name no longer than
the column is thus a matter of the width alone, and the width stays what it is while writers share a
multiplexer and nothing is connected.
-/

namespace Supervision.Output

/-- The record of a call without colours, with its bar behind a column of so many bytes. -/
structure Aligned (column : Nat) (call : Call) (record : Bytes) : Prop where
  /-- There is room for the name. -/
  fits : call.source.name.utf8ByteSize ≤ column
  layout : record = Text.Utf8.encode call.source.name ++
    (List.replicate (column - call.source.name.utf8ByteSize) 0x20 ++
      (ascii " | " ++ (call.content ++ [lineFeed])))
  bar : (record.drop column).take 3 = ascii " | "
  /-- What the call says is all that is behind the bar, up to the last byte. -/
  content : (record.drop (column + 3)).dropLast = call.content

/-- A name that is filled up to the column puts the bar behind it. -/
theorem aligned_of_layout {column : Nat} {call : Call} {record : Bytes}
    (fits : call.source.name.utf8ByteSize ≤ column)
    (layout : record = Text.Utf8.encode call.source.name ++
      (List.replicate (column - call.source.name.utf8ByteSize) 0x20 ++
        (ascii " | " ++ (call.content ++ [lineFeed])))) :
    Aligned column call record := by
  have hlength : (Text.Utf8.encode call.source.name ++
      List.replicate (column - call.source.name.utf8ByteSize) 0x20).length = column := by
    rw [List.length_append, List.length_replicate]
    exact Nat.add_sub_cancel' fits
  have hbehind : record.drop column = ascii " | " ++ (call.content ++ [lineFeed]) := by
    rw [layout, ← List.append_assoc]
    exact List.drop_left' hlength
  refine ⟨fits, layout, ?_, ?_⟩
  · rw [hbehind]
    exact List.take_left' rfl
  · have hbar : (ascii " | ").length = 3 := rfl
    rw [← List.drop_drop, hbehind, List.drop_left' hbar]
    exact List.dropLast_concat

/-- Whatever the width and whether or not the source was connected, the bar is behind the longer of
the column and the name. -/
theorem aligned_record {output : Multiplexer} (uncoloured : output.colorize = false) (call : Call) :
    Aligned (max output.width call.source.name.utf8ByteSize) call (call.record output) := by
  refine aligned_of_layout (Nat.le_max_right ..) ?_
  rw [Call.record_eq uncoloured]
  simp only [Call.text, Multiplexer.label, Multiplexer.paddedName, List.append_assoc]

namespace Sharing

variable {sharing after : Sharing} {move : SharingMove}

/-- Only a source that is connected widens the column. -/
theorem Moved.width_eq (h : Moved sharing move after) (own : move.writer?.isSome) :
    after.output.width = sharing.output.width := by
  cases h with
  | connected source => cases own
  | _ => rfl

theorem Moved.colorize_eq (h : Moved sharing move after) :
    after.output.colorize = sharing.output.colorize := by
  cases h <;> rfl

/-- Every record was put together for a call, with the column as it was then. -/
theorem Transition.exists_call_of_calledBy? {writer : Nat} {transition : Transition} {record : Bytes}
    (h : transition.calledBy? writer = some record) :
    ∃ call, transition.move.call? = some call ∧ record = call.record transition.before.output := by
  unfold calledBy? at h
  split at h
  · rename_i call hmove
    obtain ⟨-, hrecord⟩ := Option.ite_none_right_eq_some.mp h
    exact ⟨call, by rw [hmove, SharingMove.call?], (Option.some.inj hrecord).symm⟩
  · cases h

/-- The records that were put together while the writers shared a multiplexer without colours, which
has kept a name column of this width. -/
structure InColumn (column : Nat) (calls : List Call) (past : List Transition) (sharing : Sharing) :
    Prop where
  uncoloured : sharing.output.colorize = false
  width : sharing.output.width = column
  constant : ∀ transition ∈ past, transition.before.output.width = column
  /-- Each writer has put these records together, and has completed them in this order; only the
  last may not be completed. -/
  ordered : ∀ writer, calledBy writer past = completedBy writer past ++ sharing.pendingOf writer
  aligned : ∀ writer, ∀ record ∈ calledBy writer past, ∃ call ∈ calls,
    Aligned (max column call.source.name.utf8ByteSize) call record

theorem inColumn_ofOutput {output : Multiplexer} (uncoloured : output.colorize = false)
    (writers : Nat) : InColumn output.width [] [] (ofOutput output writers) where
  uncoloured := uncoloured
  width := rfl
  constant := List.forall_mem_nil _
  ordered := (recordsWhole_start output.colorize .everything writers).ordered
  aligned _ := List.forall_mem_nil _

namespace InColumn

variable {column : Nat} {calls : List Call} {past : List Transition}

theorem advance (inColumn : InColumn column calls past sharing)
    (made : sharing.advance move = some after) (own : move.writer?.isSome) :
    InColumn column (calls ++ move.call?.toList) (past ++ [⟨sharing, move, after⟩]) after := by
  have hmoved := moved_of_advance made
  refine ⟨hmoved.colorize_eq.trans inColumn.uncoloured, (hmoved.width_eq own).trans inColumn.width,
    ?_, fun writer ↦ hmoved.ordered (inColumn.ordered writer), fun writer record h ↦ ?_⟩
  · rw [List.forall_mem_append, List.forall_mem_singleton]
    exact ⟨inColumn.constant, inColumn.width⟩
  · rw [calledBy_append_singleton, List.mem_append] at h
    rcases h with h | h
    · obtain ⟨call, hcall, haligned⟩ := inColumn.aligned writer record h
      exact ⟨call, List.mem_append_left _ hcall, haligned⟩
    · obtain ⟨call, hmove, rfl⟩ := Transition.exists_call_of_calledBy? (Option.mem_toList.mp h)
      change move.call? = some call at hmove
      rw [hmove]
      refine ⟨call, List.mem_append_right calls (List.mem_singleton_self call), ?_⟩
      rw [← inColumn.width]
      exact aligned_record inColumn.uncoloured call

theorem of_follow {output : Multiplexer} {writers : Nat} {moves : List SharingMove}
    (run : (ofOutput output writers).follow moves = some (past, sharing))
    (uncoloured : output.colorize = false) (own : ∀ move ∈ moves, move.writer?.isSome) :
    InColumn output.width (madeCalls moves) past sharing := by
  refine Trace.keeps_of_follow
    (motive := fun moves past sharing ↦ InColumn output.width (madeCalls moves) past sharing) run
    (inColumn_ofOutput uncoloured writers) fun hmem made inColumn ↦ ?_
  rw [madeCalls_append_singleton]
  exact inColumn.advance made (own _ hmem)

theorem mem_calledBy_of_completed (inColumn : InColumn column calls past sharing) {writer : Nat}
    {record : Bytes} (h : (writer, record) ∈ completed past) : record ∈ calledBy writer past := by
  rw [inColumn.ordered, List.mem_append]
  refine .inl (List.mem_map.mpr ⟨(writer, record), List.mem_filter.mpr ⟨h, ?_⟩, rfl⟩)
  exact decide_eq_true rfl

/-- A part of a record in the sink is the front of one that was put together. -/
theorem exists_calledBy_of_underWay (inColumn : InColumn column calls past sharing) {part : Bytes}
    (underWay : sharing.UnderWay part) :
    part = [] ∨ ∃ writer, ∃ record ∈ calledBy writer past, part <+: record := by
  cases underWay with
  | free free => exact .inl rfl
  | @held writer _ rest holder writing =>
    refine .inr ⟨writer, part ++ rest, ?_, List.prefix_append ..⟩
    rw [inColumn.ordered, List.mem_append, pendingOf_of_present writing]
    exact .inr (List.mem_singleton_self _)

end InColumn

end Sharing

end Supervision.Output
