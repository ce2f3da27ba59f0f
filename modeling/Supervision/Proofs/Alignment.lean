import Supervision.Proofs.Attribution
import Supervision.Proofs.Output.Actions
import Supervision.Proofs.Output.Columns
import Supervision.Proofs.Registration

/-!
# All records are aligned

A name column is as wide as the longest name that was connected.  A supervisor connects every process
when it is registered, and a run takes the supervisor, so that no process is registered any more: the
column has its width before the first record and keeps it.  All records of the run therefore have
their bars behind the longest of the registered names.
-/

namespace Supervision

open Output

/-- What is shown of a process is shown under its own name. -/
theorem Event.source_of_call? {event : Event} {source : Source} {call : Call}
    (h : event.call? source = some call) : call.source = source := by
  cases event with
  | wrote notice =>
    cases h
    exact notice.source_call source
  | copied run content => cases content <;> cases h <;> rfl
  | _ => cases h

namespace Supervisor

def longestName (supervisor : Supervisor) : Nat :=
  (supervisor.processes.map fun managed ↦ managed.name.utf8ByteSize).max?.getD 0

theorem le_longestName {supervisor : Supervisor} {managed : Managed}
    (h : managed ∈ supervisor.processes) :
    managed.name.utf8ByteSize ≤ supervisor.longestName :=
  List.le_max?_getD_of_mem (List.mem_map_of_mem h)

/-- What is shown in a run of a supervisor is written by any number of writers.  None of their moves
connects a source, since nothing is registered during a run. -/
structure SharedRun (supervisor : Supervisor) (past : List Transition) (moves : List SharingMove)
    (shared : List Sharing.Transition) (sharing : Sharing) : Prop where
  run : ∃ system, Execution (.ofSupervisor supervisor) past system
  together : ∃ writers,
    (Sharing.ofOutput supervisor.output writers).follow moves = some (shared, sharing)
  own : ∀ move ∈ moves, move.writer?.isSome
  made : ∀ call ∈ madeCalls moves, call ∈ supervisor.outputCalls past

/-- A record of a registered process with its bar behind the longest of the registered names. -/
def LinedUp (supervisor : Supervisor) (past : List Transition) (record : Bytes) : Prop :=
  ∃ managed ∈ supervisor.processes, ∃ call ∈ supervisor.outputCalls past,
    call.source = managed.source ∧ Aligned supervisor.longestName call record

/-- All records of a run are lined up. -/
structure AllLinedUp (supervisor : Supervisor) (past : List Transition) (moves : List SharingMove)
    (shared : List Sharing.Transition) (sharing : Sharing) : Prop where
  width : ∀ before ∈ shared.map (·.before) ++ [sharing],
    before.output.width = supervisor.longestName
  records : ∀ writer, ∀ record ∈ Sharing.calledBy writer shared, supervisor.LinedUp past record
  /-- The sink holds nothing else, unless it has refused part of a record. -/
  written : (∀ move ∈ moves, move.accepts = true) → ∃ (done : List Bytes) (part : Bytes),
    sharing.output.sink.written = done.flatten ++ part ∧
      (∀ record ∈ done, supervisor.LinedUp past record) ∧
        (part = [] ∨ ∃ record, part <+: record ∧ supervisor.LinedUp past record)

theorem output_addSpecs (supervisor : Supervisor) (specs : List ProcessSpec) :
    (supervisor.addSpecs specs).output.colorize = supervisor.output.colorize ∧
      (supervisor.addSpecs specs).output.sink = supervisor.output.sink := by
  induction specs generalizing supervisor with
  | nil => exact ⟨rfl, rfl⟩
  | cons spec specs ih => exact ih (supervisor.addSpec spec)

section

variable {supervisor : Supervisor} {kind : ChannelKind} {registrations : List Registration}
  {past : List Transition} {moves : List SharingMove} {shared : List Sharing.Transition}
  {sharing : Sharing}

/-- The name column is as wide as the longest of the names that are registered. -/
theorem Holds.width_eq (holds : supervisor.Holds kind registrations) :
    supervisor.output.width = supervisor.longestName := by
  have hlengths := congrArg (List.map String.utf8ByteSize) holds.names
  rw [List.map_map, List.map_map] at hlengths
  rw [holds.width, longestName]
  exact congrArg (fun lengths ↦ lengths.max?.getD 0) hlengths.symm

/-- The column is as wide as the longest name from the start and no move widens it, so every record
is put together for that width. -/
theorem SharedRun.allLinedUp (run : supervisor.SharedRun past moves shared sharing)
    (width : supervisor.output.width = supervisor.longestName)
    (uncoloured : supervisor.output.colorize = false)
    (unwritten : supervisor.output.sink.written = []) :
    supervisor.AllLinedUp past moves shared sharing := by
  obtain ⟨writers, together⟩ := run.together
  have hcolumn := Sharing.InColumn.of_follow together uncoloured run.own
  have hrecords : ∀ writer, ∀ record ∈ Sharing.calledBy writer shared,
      supervisor.LinedUp past record := by
    intro writer record h
    obtain ⟨call, hcall, haligned⟩ := hcolumn.aligned writer record h
    obtain ⟨_, managed, event, registered, _, hevent⟩ :=
      exists_event_of_mem_outputCalls (run.made call hcall)
    have hmanaged := List.mem_of_getElem? registered
    have hsource := Event.source_of_call? hevent
    have hfits : call.source.name.utf8ByteSize ≤ supervisor.output.width := by
      rw [hsource, width]
      exact le_longestName hmanaged
    refine ⟨managed, hmanaged, call, run.made call hcall, hsource, ?_⟩
    rwa [Nat.max_eq_left hfits, width] at haligned
  refine ⟨fun before h ↦ ?_, hrecords, fun accepting ↦ ?_⟩
  · rw [← width]
    rcases List.mem_append.mp h with h | h
    · obtain ⟨transition, htransition, rfl⟩ := List.mem_map.mp h
      exact hcolumn.constant transition htransition
    · rw [List.mem_singleton.mp h]
      exact hcolumn.width
  · have hrecorded := Sharing.CallsRecorded.of_follow together unwritten run.own accepting
    obtain ⟨part, underWay, hwritten⟩ := hrecorded.written
    refine ⟨_, part, hwritten, fun record h ↦ ?_, ?_⟩
    · obtain ⟨⟨writer, _⟩, hcompleted, rfl⟩ := List.mem_map.mp h
      exact hrecords writer _ (hcolumn.mem_calledBy_of_completed hcompleted)
    · refine (hcolumn.exists_calledBy_of_underWay underWay).imp_right ?_
      rintro ⟨writer, record, hmem, hbegins⟩
      exact ⟨record, hbegins, hrecords writer record hmem⟩

end

/-- The name column of a new multiplexer is as wide as the longest name that was connected, whatever
is written in between, and never narrower than before.  Any record without colours has its bar behind
that column, or behind its name if that is longer.  In a run of a supervisor whose multiplexer was new
when its processes were registered, the bars of all records are behind the longest of their names. -/
theorem bars_are_aligned (acceptance : Acceptance) :
    (∀ colorize (actions later : List Multiplexer.Action),
      ((Multiplexer.start colorize acceptance).performAll actions).width =
          (Multiplexer.connectedLengths actions).max?.getD 0 ∧
        ((Multiplexer.start colorize acceptance).performAll actions).width ≤
          ((Multiplexer.start colorize acceptance).performAll (actions ++ later)).width) ∧
    (∀ (output : Multiplexer) (call : Call), output.colorize = false →
      Aligned (max output.width call.source.name.utf8ByteSize) call (call.record output)) ∧
    ∀ name gracefulTimeout kind registrations past moves shared sharing,
      ((start name gracefulTimeout kind (.start false acceptance)).registerAll
        registrations).SharedRun past moves shared sharing →
      ((start name gracefulTimeout kind (.start false acceptance)).registerAll
        registrations).AllLinedUp past moves shared sharing := by
  refine ⟨fun colorize actions later ↦ ⟨Multiplexer.width_performAll_start .., ?_⟩,
    fun output call uncoloured ↦ aligned_record uncoloured call,
    fun name gracefulTimeout kind registrations past moves shared sharing run ↦ ?_⟩
  · rw [Multiplexer.performAll_append]
    exact Multiplexer.width_le_performAll ..
  · obtain ⟨hcolorize, hsink⟩ := output_addSpecs
      (start name gracefulTimeout kind (.start false acceptance))
      (registrations.filterMap Registration.spec?)
    rw [← registerAll_eq] at hcolorize hsink
    have hwidth :=
      (holds_registerAll name gracefulTimeout kind false acceptance registrations).width_eq
    exact run.allLinedUp hwidth hcolorize (congrArg Sink.written hsink)

/-- Two processes whose names are of different lengths, and a command that is rejected. -/
def paired : Supervisor :=
  (start "main" (.ofSeconds 5) .pipe (.start false .everything)).registerAll
    [.process "pg" "true" [], .process "scheduler" "" [], .described (.sleeper .terminate .never)]

/-- A line of the first process while it is said to run, and after that the other one. -/
def pairedMoves : List SharingMove :=
  SharingMove.crossing ⟨"pg", 2⟩ ++ SharingMove.through 0 (.status ⟨"sleeper", 3⟩ "Running...")

/-- The shorter name is filled up, and a rejected command leaves no name behind. -/
theorem bars_are_aligned_paired :
    ∃ past shared sharing,
      paired.SharedRun past pairedMoves shared sharing ∧
      paired.AllLinedUp past pairedMoves shared sharing ∧ paired.longestName = 7 ∧
      sharing.output.sink.written =
        ascii "pg      | Running...\npg      | ok\nsleeper | Running...\n" := by
  have run := Trace.of_follow (show
    (System.ofSupervisor paired).follow (Move.start 0 7 ++
      [.task 0 (.read 0 (.data (ascii "ok" ++ [0x0a])))] ++ Move.start 1 8) = some (_, _) from rfl)
  have together := show (Sharing.ofOutput paired.output 2).follow pairedMoves = some (_, _) from rfl
  have shown : paired.SharedRun _ pairedMoves _ _ := ⟨⟨_, run⟩, ⟨2, together⟩, by decide, by decide⟩
  obtain ⟨-, -, hruns⟩ := bars_are_aligned .everything
  exact ⟨_, _, _, shown, hruns _ _ _ _ _ _ _ _ shown, by decide, by decide⟩

end Supervisor

end Supervision
