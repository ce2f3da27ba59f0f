import Supervision.Proofs.Process.Unbroken

/-!
# Every line is attributed

The shared stream falls into lines that begin with the padded name of a registered process and a bar,
and every call that a supervisor, its tasks or its readers make has one of them.  This takes names and
programs of one line: nothing else is asked of a name than that it is not blank, and the error of a
child that could not be started tells its program as it is.
-/

namespace Supervision

open Output

/-- The call on the multiplexer by which an occurrence is shown, if it is shown. -/
def Occurrence.call? (processes : List Managed) : Occurrence → Option Call
  | process index event => processes[index]?.bind fun managed ↦ event.call? managed.source
  | logged _ => none

namespace Supervisor

def outputCalls (supervisor : Supervisor) (past : List Transition) : List Call :=
  (past.flatMap fun transition ↦ transition.step.occurrences).filterMap
    (Occurrence.call? supervisor.processes)

/-- Every call shows an event of a registered process. -/
theorem exists_event_of_mem_outputCalls {supervisor : Supervisor} {past : List Transition}
    {call : Call} (h : call ∈ supervisor.outputCalls past) :
    ∃ index managed event, supervisor.processes[index]? = some managed ∧
      event ∈ eventsOf index past ∧ event.call? managed.source = some call := by
  obtain ⟨occurrence, hmem, hcall⟩ := List.mem_filterMap.mp h
  obtain ⟨transition, htransition, hoccurrence⟩ := List.mem_flatMap.mp hmem
  cases occurrence with
  | process index event =>
    obtain ⟨managed, hmanaged, hevent⟩ := Option.bind_eq_some_iff.mp hcall
    refine ⟨index, managed, event, hmanaged, List.mem_flatMap.mpr ⟨transition, htransition, ?_⟩, hevent⟩
    exact List.mem_filterMap.mpr ⟨_, hoccurrence, if_pos rfl⟩
  | logged message => cases hcall

end Supervisor

/-- Every line of the shared stream begins with the padded name of a registered process and a bar, and
each call has its one line, when names, programs and the errors that the system answers are of one
line. -/
theorem lines_are_attributed {supervisor : Supervisor} {past : List Transition} {system : System}
    {writers : Nat} {moves : List SharingMove} {shared : List Sharing.Transition}
    {sharing : Sharing} (assembled : supervisor.Assembled)
    (uncoloured : supervisor.output.colorize = false)
    (unwritten : supervisor.output.sink.written = [])
    (oneLine : ∀ managed ∈ supervisor.processes,
      Text.OneLine managed.name ∧ Text.OneLine managed.spec.command.program)
    (run : Execution (.ofSupervisor supervisor) past system)
    (answers : ∀ transition ∈ past, transition.move.Unbroken supervisor.processes)
    (together : (Sharing.ofOutput supervisor.output writers).follow moves = some (shared, sharing))
    (own : ∀ move ∈ moves, move.writer?.isSome) (accepting : ∀ move ∈ moves, move.accepts = true)
    (made : ∀ call ∈ madeCalls moves, call ∈ supervisor.outputCalls past) :
    ∃ lines rest, Sharing.CallsShown supervisor.output (madeCalls moves) sharing lines rest ∧
      (∀ line ∈ lines, ∃ managed ∈ supervisor.processes,
        supervisor.output.label managed.source <+: line) ∧
      ((madeCalls moves).Perm (supervisor.outputCalls past) →
        (∀ phase ∈ sharing.writers, phase = .idle) →
          lines.Perm ((supervisor.outputCalls past).map (Call.text supervisor.output))) := by
  have hcalls : ∀ call ∈ madeCalls moves, call.OneLine ∧
      ∃ managed ∈ supervisor.processes, call.source = managed.source := by
    intro call hcall
    obtain ⟨index, managed, event, registered, hevent, hshows⟩ :=
      Supervisor.exists_event_of_mem_outputCalls (made call hcall)
    have hmanaged := List.mem_of_getElem? registered
    obtain ⟨hname, hprogram⟩ := oneLine managed hmanaged
    have hunbroken := run.unbroken assembled registered hprogram answers event hevent
    obtain ⟨hsource, hline⟩ := hunbroken.oneLine hname hshows
    exact ⟨hline, managed, hmanaged, hsource⟩
  have hrecorded := Sharing.CallsRecorded.of_follow together unwritten own accepting
  obtain ⟨lines, rest, hshown⟩ := hrecorded.shown uncoloured fun call hcall ↦ (hcalls call hcall).1
  refine ⟨lines, rest, hshown, fun line hline ↦ ?_, fun hall idle ↦ ?_⟩
  · obtain ⟨call, hcall, rfl⟩ := List.mem_map.mp (hshown.ofCalls.subset hline)
    obtain ⟨_, managed, hmanaged, hsource⟩ := hcalls call hcall
    refine ⟨managed, hmanaged, ?_⟩
    rw [← hsource]
    exact List.prefix_append _ _
  · exact (hshown.whole idle).1.trans (hall.map _)

/-- The moves of a writer that comes through with a call, which the sink takes at once. -/
def Output.SharingMove.through (writer : Nat) (call : Call) : List SharingMove :=
  [.call writer call, .lock writer, .write writer .everything, .unlock writer]

/-- A reader puts the record of a line together before the task writes that the child runs, and
writes it in two pieces after that. -/
def Output.SharingMove.crossing (source : Source) : List SharingMove :=
  [.call 1 (.line source (ascii "ok"))] ++ through 0 (.status source "Running...") ++
    [.lock 1, .write 1 (.atMost 3), .write 1 .everything, .unlock 1]

/-- The line of the reader was put together first and comes second, and both are whole. -/
theorem lines_are_attributed_sleeper :
    ∃ past system shared sharing lines rest,
      Execution (.ofSupervisor (.ofSpecs [.sleeper .terminate .never])) past system ∧
        (Sharing.ofOutput (Supervisor.ofSpecs [.sleeper .terminate .never]).output 2).follow
          (SharingMove.crossing ⟨"sleeper", 2⟩) = some (shared, sharing) ∧
        sharing.output.sink.written.splitOn lineFeed = lines ++ [rest] ∧
        lines = [ascii "sleeper | Running...", ascii "sleeper | ok"] ∧
        ∀ line ∈ lines, ascii "sleeper | " <+: line := by
  have run := Trace.of_follow (show
    (System.ofSupervisor (.ofSpecs [.sleeper .terminate .never])).follow
      (Move.start 0 7 ++ [.task 0 (.read 0 (.data (ascii "ok" ++ [0x0a])))] ++
        Move.exit 0 (.exited 0)) = some (_, _) from rfl)
  have together := show (Sharing.ofOutput
    (Supervisor.ofSpecs [.sleeper .terminate .never]).output 2).follow
      (SharingMove.crossing ⟨"sleeper", 2⟩) = some (_, _) from rfl
  obtain ⟨lines, rest, shown, attributed, _⟩ := lines_are_attributed (Supervisor.assembled_ofSpecs _)
    rfl rfl (by decide) run
    (by simp [Move.Unbroken, TaskMove.Unbroken, RunMove.Unbroken, ErrorOneLine]) together (by decide)
    (by decide) (by decide)
  have hpieces := shown.split.symm.trans
    (show _ = [ascii "sleeper | Running...", ascii "sleeper | ok"] ++ [[]] by decide)
  obtain ⟨hlines, _⟩ := List.append_inj' hpieces rfl
  refine ⟨_, _, _, _, lines, rest, run, together, shown.split, hlines, fun line hline ↦ ?_⟩
  obtain ⟨managed, hmanaged, hbegins⟩ := attributed line hline
  obtain rfl := List.mem_singleton.mp hmanaged
  exact hbegins

/-- A process whose program has a line feed. -/
def ProcessSpec.broken : ProcessSpec :=
  ⟨"svc", ⟨"no\nsuch", [], .empty, none⟩, .interrupt, .never⟩

/-- The moves of a process whose child cannot be started. -/
def Move.unstarted (index : Nat) (failure : Failure) : List Move :=
  [.openChannel (.ok ()), .lock, .check (.ok ()), .launch (.error failure)].map
    (fun move ↦ .task index (.run move)) ++ [.task index .settle]

theorem Move.unbroken_unstarted {processes : List Managed} {managed : Managed} {index : Nat}
    {cause : IoCause} (registered : processes[index]? = some managed)
    (line : Text.OneLine cause.message) :
    ∀ move ∈ unstarted index (launchFailure managed.spec.command.program cause),
      move.Unbroken processes := by
  have hlaunch (other : Managed) (hother : processes[index]? = some other) :
      (RunMove.launch (.error (launchFailure managed.spec.command.program cause))).Unbroken
        other.spec.command.program := by
    obtain rfl := Option.some.inj (hother.symm.trans registered)
    exact ⟨cause, rfl, line⟩
  simpa [unstarted, Move.Unbroken, TaskMove.Unbroken, RunMove.Unbroken, ErrorOneLine] using hlaunch

/-- A program with a line feed is accepted.  When it cannot be started, the error is written in one
call that makes two lines, of which the second begins with no name. -/
theorem program_breaks_line :
    ∃ past system shared sharing,
      ProcessSpec.build "svc" "'no\nsuch'" [] = .ok .broken ∧
        Execution (.ofSupervisor (.ofSpecs [.broken])) past system ∧
        (∀ transition ∈ past, transition.move.Unbroken (Supervisor.ofSpecs [.broken]).processes) ∧
        (Sharing.ofOutput (Supervisor.ofSpecs [.broken]).output 1).follow
          (((Supervisor.ofSpecs [.broken]).outputCalls past).flatMap (SharingMove.through 0)) =
            some (shared, sharing) ∧
        sharing.writers = [.idle] ∧ ((Supervisor.ofSpecs [.broken]).outputCalls past).length = 2 ∧
        sharing.output.sink.written.splitOn lineFeed =
          [ascii "svc | Running...", ascii "svc | Process spawn failed: no",
            ascii "such: No such file or directory (os error 2)", []] ∧
        ∀ managed ∈ (Supervisor.ofSpecs [.broken]).processes,
          ¬(Supervisor.ofSpecs [.broken]).output.label managed.source <+:
            ascii "such: No such file or directory (os error 2)" := by
  have run := Trace.of_follow (show
    (System.ofSupervisor (.ofSpecs [.broken])).follow
      (Move.unstarted 0 (launchFailure "no\nsuch" (.system .noSuchFile))) = some (_, _) from rfl)
  have registered : (Supervisor.ofSpecs [.broken]).processes[0]? =
      some (.ofSpec .broken 2 .pipe) := rfl
  have line : Text.OneLine (IoCause.system .noSuchFile).message := Errno.oneLine_report _
  refine ⟨_, _, _, _, rfl, run, ?_, rfl, rfl, rfl, by decide, by decide⟩
  exact List.forall_mem_map.mp (Move.unbroken_unstarted registered line)

end Supervision
