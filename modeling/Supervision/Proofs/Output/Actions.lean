import Supervision.Proofs.Output.Records

/-!
# What is done with a multiplexer

Sources are connected to a multiplexer and records are written, one after the other and in any order.
The name column is as wide as the longest name connected so far, and so it only widens.  Unless the
sink refuses, it holds the records as they were put together.
-/

namespace Supervision.Output

namespace Multiplexer

/-- Something that is done with a multiplexer: a source is connected, or a record is written. -/
inductive Action
  | connect (source : Source)
  | write (call : Call)
  deriving DecidableEq, Repr

def perform (output : Multiplexer) : Action → Multiplexer
  | .connect source => output.connect source
  | .write call => call.write output

def performAll (output : Multiplexer) (actions : List Action) : Multiplexer :=
  actions.foldl perform output

def Action.source? : Action → Option Source
  | connect source => some source
  | write _ => none

def connectedLengths (actions : List Action) : List Nat :=
  (actions.filterMap Action.source?).map fun source ↦ source.name.utf8ByteSize

/-- The records that are put together, each for the width that the name column has by then. -/
def records (output : Multiplexer) : List Action → List Bytes
  | [] => []
  | .connect source :: actions => (output.connect source).records actions
  | .write call :: actions => call.record output :: (call.write output).records actions

end Multiplexer

/-! ## What is written -/

namespace Sink

theorem isPositive_of_taken {sink : Sink} {bytes : Bytes} (h : sink.taken bytes ≠ 0) :
    sink.acceptance.isPositive = true := by
  unfold taken at h
  cases hacceptance : sink.acceptance with
  | everything => rfl
  | atMost count =>
    have hcount : count ≠ 0 := by
      rintro rfl
      simp [hacceptance] at h
    exact decide_eq_true (Nat.pos_of_ne_zero hcount)
  | refuses => simp [hacceptance] at h

/-- All bytes of a record are written unless the sink refuses, and it goes on as it was. -/
theorem written_writeAll (sink : Sink) (bytes : Bytes) :
    (sink.writeAll bytes).acceptance = sink.acceptance ∧
      (sink.writeAll bytes).written =
        sink.written ++ if sink.acceptance.isPositive then bytes else [] := by
  induction sink, bytes using Sink.writeAll.induct with
  | case1 sink =>
    rw [writeAll, dif_pos rfl, ite_self, List.append_nil]
    exact ⟨rfl, rfl⟩
  | case2 sink bytes unwritten none =>
    have hrefused : ¬sink.acceptance.isPositive = true := fun positive ↦
      Nat.ne_of_gt (taken_pos positive unwritten) none
    rw [writeAll, dif_neg unwritten, dif_pos none, if_neg hrefused, List.append_nil]
    exact ⟨rfl, rfl⟩
  | case3 sink bytes unwritten some ih =>
    have hpositive := isPositive_of_taken some
    have hafter : (sink.writeSome bytes).2.acceptance = sink.acceptance := rfl
    rw [hafter, if_pos hpositive, written_writeSome, List.append_assoc] at ih
    rw [writeAll, dif_neg unwritten, dif_neg some, if_pos hpositive]
    refine ⟨ih.1, ih.2.trans ?_⟩
    exact congrArg (sink.written ++ ·) (List.take_append_drop (sink.taken bytes) bytes)

end Sink

namespace Multiplexer

theorem sink_write (output : Multiplexer) (call : Call) :
    (call.write output).sink = output.sink.writeAll (call.record output) := by
  cases call <;> rfl

theorem width_write (output : Multiplexer) (call : Call) :
    (call.write output).width = output.width := by
  cases call <;> rfl

theorem colorize_write (output : Multiplexer) (call : Call) :
    (call.write output).colorize = output.colorize := by
  cases call <;> rfl

/-- Every record is that of a call, put together by a multiplexer with colours or without them as
before. -/
theorem exists_call_of_mem_records {output : Multiplexer} {actions : List Action} {record : Bytes}
    (h : record ∈ output.records actions) :
    ∃ call, .write call ∈ actions ∧
      ∃ later : Multiplexer, later.colorize = output.colorize ∧ record = call.record later := by
  induction actions generalizing output with
  | nil => cases h
  | cons action actions ih =>
    cases action with
    | connect source =>
      have hrest : record ∈ (output.connect source).records actions := h
      obtain ⟨call, hmem, later, hcolorize, hrecord⟩ := ih hrest
      exact ⟨call, List.mem_cons_of_mem _ hmem, later, hcolorize, hrecord⟩
    | write call =>
      rcases List.mem_cons.mp h with rfl | hrest
      · exact ⟨call, List.mem_cons_self, output, rfl, rfl⟩
      · obtain ⟨other, hmem, later, hcolorize, hrecord⟩ := ih hrest
        exact ⟨other, List.mem_cons_of_mem _ hmem, later,
          hcolorize.trans (output.colorize_write call), hrecord⟩

/-- A sink that takes anything gets all records whole, and any other gets none of them. -/
theorem written_performAll (output : Multiplexer) (actions : List Action) :
    (output.performAll actions).sink.written = output.sink.written ++
      if output.sink.acceptance.isPositive then (output.records actions).flatten else [] := by
  induction actions generalizing output with
  | nil =>
    rw [records, List.flatten_nil, ite_self, List.append_nil]
    rfl
  | cons action actions ih =>
    cases action with
    | connect source => exact ih (output.connect source)
    | write call =>
      have hrest := ih (call.write output)
      obtain ⟨hacceptance, hwritten⟩ := output.sink.written_writeAll (call.record output)
      rw [sink_write, hacceptance, hwritten, List.append_assoc] at hrest
      refine hrest.trans (congrArg (output.sink.written ++ ·) ?_)
      rw [records, List.flatten_cons]
      split <;> rfl

/-! ## How wide the name column is -/

theorem performAll_append (output : Multiplexer) (actions later : List Action) :
    output.performAll (actions ++ later) = (output.performAll actions).performAll later :=
  List.foldl_append

/-- The column is as wide as the longest of the names connected so far. -/
theorem width_performAll (output : Multiplexer) (actions : List Action) :
    (output.performAll actions).width = (connectedLengths actions).foldl max output.width := by
  induction actions generalizing output with
  | nil => rfl
  | cons action actions ih =>
    cases action with
    | connect source => exact ih (output.connect source)
    | write call => exact (ih (call.write output)).trans (by rw [width_write]; rfl)

/-- The column never becomes narrower. -/
theorem width_le_performAll (output : Multiplexer) (actions : List Action) :
    output.width ≤ (output.performAll actions).width := by
  rw [width_performAll, List.foldl_max]
  exact Nat.le_max_left ..

theorem width_performAll_start (colorize : Bool) (acceptance : Acceptance) (actions : List Action) :
    ((start colorize acceptance).performAll actions).width =
      (connectedLengths actions).max?.getD 0 := by
  rw [width_performAll, List.foldl_max]
  exact Nat.zero_max _

end Multiplexer

end Supervision.Output
