import Supervision.Proofs.Execution
import Supervision.Proofs.Output.Attribution

/-!
# What the lines of a process say

What a process has to say is its notices and what its readers copy.  A reader copies no line feed, and
a notice holds none unless an error that it tells holds one.  An error tells what the system has
answered, and before it, when a child could not be started, the program as it was configured.
-/

namespace Supervision

open Output

/-! ## Calls -/

/-- The call that writes a notice. -/
def Notice.call (notice : Notice) (source : Source) : Call :=
  match notice with
  | running | stopping _ | killing => .status source notice.text
  | exited status =>
    if status.success then .status source notice.text else .error source notice.text
  | signalFailed _ | waitFailed _ | failed _ => .error source notice.text
  | restarting .. | done | exhausted => .line source (Text.Utf8.encode notice.text)

/-- Writing a notice is a single call. -/
theorem Notice.write_eq (notice : Notice) (output : Multiplexer) (source : Source) :
    notice.write output source = (notice.call source).write output := by
  cases notice with
  | exited status =>
    simp only [Notice.write, Notice.call]
    split <;> rfl
  | _ => rfl

@[simp]
theorem Notice.source_call (notice : Notice) (source : Source) :
    (notice.call source).source = source := by
  cases notice with
  | exited status =>
    simp only [Notice.call]
    split <;> rfl
  | _ => rfl

@[simp]
theorem Notice.content_call (notice : Notice) (source : Source) :
    (notice.call source).content = Text.Utf8.encode notice.text := by
  cases notice with
  | exited status =>
    simp only [Notice.call]
    split <;> rfl
  | _ => rfl

/-- The call that writes what a reader has copied. -/
def Output.Copied.call (copied : Copied) (source : Source) : Call :=
  match copied with
  | line content => .line source content
  | error message => .error source message

/-- The call that writes what an event shows, if it shows something. -/
def Event.call? (event : Event) (source : Source) : Option Call :=
  match event with
  | wrote notice => some (notice.call source)
  | copied _ content => some (content.call source)
  | _ => none

/-- What an event shows is written by its call. -/
theorem Event.write_eq (event : Event) (output : Multiplexer) (source : Source) :
    event.write output source = ((event.call? source).map (Call.write output)).getD output := by
  cases event with
  | wrote notice => exact notice.write_eq output source
  | copied run content => cases content <;> rfl
  | _ => rfl

/-- What the event shows holds no line feed. -/
def Event.Unbroken : Event → Prop
  | wrote notice => Text.OneLine notice.text
  | copied _ (.line content) => lineFeed ∉ content
  | copied _ (.error message) => Text.OneLine message
  | _ => True

/-- An unbroken event is shown on one line, if the name of its process is on one. -/
theorem Event.Unbroken.oneLine {event : Event} {source : Source} {call : Call}
    (unbroken : event.Unbroken) (name : Text.OneLine source.name)
    (h : event.call? source = some call) : call.source = source ∧ call.OneLine := by
  cases event with
  | wrote notice =>
    cases h
    rw [notice.source_call]
    refine ⟨rfl, by rwa [notice.source_call], ?_⟩
    rw [notice.content_call]
    exact Text.lineFeed_not_mem_encode.mpr unbroken
  | copied run content =>
    cases content with
    | line content => cases h; exact ⟨rfl, name, unbroken⟩
    | error message => cases h; exact ⟨rfl, name, Text.lineFeed_not_mem_encode.mpr unbroken⟩
  | _ => cases h

/-! ## Readers -/

namespace Output

namespace Reader

variable {reader : Reader}

theorem unbroken_close (settled : reader.buffer.Settled) (run : Nat) :
    reader.close.2.buffer.Settled ∧ ∀ copied ∈ reader.close.1, (Event.copied run copied).Unbroken :=
  ⟨settled.apply .finish, List.forall_mem_map.mpr settled.lineFeed_not_mem_finish⟩

/-- A reader copies no line feed. -/
theorem unbroken_step (settled : reader.buffer.Settled) (run : Nat) (result : ReadResult) :
    (reader.step result).2.buffer.Settled ∧
      ∀ copied ∈ (reader.step result).1, (Event.copied run copied).Unbroken := by
  have hclose := unbroken_close settled run
  unfold step
  split
  · exact ⟨settled, List.forall_mem_nil _⟩
  split
  · exact hclose
  · rename_i chunk _
    exact ⟨settled.apply (.push chunk), List.forall_mem_map.mpr (settled.lineFeed_not_mem_push chunk)⟩
  · exact hclose
  · rename_i errno
    split
    · exact ⟨settled, List.forall_mem_nil _⟩
    split
    · exact hclose
    · exact ⟨hclose.1, List.forall_mem_cons.mpr ⟨errno.oneLine_report, hclose.2⟩⟩

end Reader

end Output

/-! ## Notices -/

namespace Notice

theorem oneLine_stopping (signal : Signal) : Text.OneLine (stopping signal).text := by
  have hbefore : Text.OneLine "Stopping " := by decide
  exact (hbefore.append signal.oneLine_name).append (by decide)

theorem oneLine_exited (status : ExitStatus) : Text.OneLine (exited status).text := by
  have hbefore : Text.OneLine "Process exited " := by decide
  exact hbefore.append status.oneLine_text

theorem oneLine_restarting (attempt : UInt32) (delay : Span) :
    Text.OneLine (restarting attempt delay).text := by
  have hbefore : Text.OneLine "restarting in " := by decide
  have hbetween : Text.OneLine " [attempt " := by decide
  have hdelay := (hbefore.append delay.oneLine_text).append hbetween
  exact (hdelay.append (Text.oneLine_toString_nat _)).append (by decide)

end Notice

/-! ## Answers of the system -/

/-- If there is an error, it is told on one line. -/
def ErrorOneLine {ε α : Type} (message : ε → String) : Except ε α → Prop
  | .ok _ => True
  | .error error => Text.OneLine (message error)

/-- Every error that the system answers is told on one line; that of a start tells the program. -/
def RunMove.Unbroken (program : String) : RunMove → Prop
  | openChannel opened => ErrorOneLine Failure.message opened
  | check prepared => ErrorOneLine Failure.message prepared
  | launch (.error failure) =>
    ∃ cause : IoCause, failure = launchFailure program cause ∧ Text.OneLine cause.message
  | reap waited => ErrorOneLine IoCause.message waited
  | _ => True

def TaskMove.Unbroken (program : String) : TaskMove → Prop
  | run move => move.Unbroken program
  | _ => True

def Move.Unbroken (processes : List Managed) : Move → Prop
  | task index move => ∀ managed, processes[index]? = some managed →
      move.Unbroken managed.spec.command.program
  | interrupt sent | kill sent => ErrorOneLine Failure.message sent
  | _ => True

/-- The failure tells the program, which therefore must be on one line too. -/
theorem oneLine_launchFailure {program : String} {cause : IoCause} (h : Text.OneLine program)
    (hcause : Text.OneLine cause.message) :
    Text.OneLine (launchFailure program cause).message := by
  have hbefore : Text.OneLine "Process spawn failed: " := by decide
  exact hbefore.append ((h.append (by decide)).append hcause)

/-! ## Runs and restart loops -/

/-- An error that the run has still to tell is told on one line. -/
def RunPhase.Unbroken : RunPhase → Prop
  | reaped waited | cleared waited | draining waited | reporting waited =>
    ErrorOneLine IoCause.message waited
  | returned result => ErrorOneLine Failure.message result
  | _ => True

/-- What the readers hold is part of a line each, and errors still to tell are told on one line. -/
structure Task.Unbroken (task : Task) : Prop where
  settled : ∀ reader ∈ task.managed.readers, reader.buffer.Settled
  phase : ∀ phase, task.phase = .running phase → phase.Unbroken

theorem Task.unbroken_ofManaged {managed : Managed} (fresh : managed.Fresh) :
    (Task.ofManaged managed).Unbroken := by
  obtain ⟨spec, color, kind, rfl⟩ := fresh
  refine ⟨List.forall_mem_nil _, fun phase hphase ↦ ?_⟩
  cases hphase
  trivial

namespace Managed

variable {stopping : Bool} {managed : Managed} {phase : RunPhase} {move : RunMove} {step : RunStep}

theorem Moved.settled (h : Moved stopping managed phase move step)
    (settled : ∀ reader ∈ managed.readers, reader.buffer.Settled) :
    ∀ reader ∈ step.managed.readers, reader.buffer.Settled := by
  cases h with
  | opened =>
    rw [List.forall_mem_append, List.forall_mem_singleton]
    exact ⟨settled, LineBuffer.settled_empty _⟩
  | _ => exact settled

/-- A run shows no line feed if the program and the answers of the system hold none. -/
theorem Moved.unbroken (h : Moved stopping managed phase move step)
    (program : Text.OneLine managed.spec.command.program)
    (answer : move.Unbroken managed.spec.command.program) (unbroken : phase.Unbroken) :
    step.phase.Unbroken ∧ ∀ event ∈ step.events, event.Unbroken := by
  cases h with
  | openFailed | unprepared => exact ⟨answer, List.forall_mem_nil _⟩
  | passed =>
    have hrunning : Text.OneLine Notice.running.text := by decide
    exact ⟨trivial, List.forall_mem_singleton.mpr hrunning⟩
  | launchFailed failure =>
    obtain ⟨cause, rfl, hcause⟩ := answer
    exact ⟨oneLine_launchFailure program hcause, List.forall_mem_nil _⟩
  | waited pid waited =>
    refine ⟨answer, List.forall_mem_singleton.mpr ?_⟩
    cases waited <;> trivial
  | cleared | drained | drainExpired => exact ⟨unbroken, List.forall_mem_nil _⟩
  | published => exact ⟨unbroken, List.forall_mem_singleton.mpr trivial⟩
  | reported status => exact ⟨trivial, List.forall_mem_singleton.mpr (Notice.oneLine_exited status)⟩
  | reportedLoss cause => exact ⟨trivial, List.forall_mem_singleton.mpr unbroken⟩
  | launched | announced => exact ⟨trivial, List.forall_mem_singleton.mpr trivial⟩
  | opened | locked | refused => exact ⟨trivial, List.forall_mem_nil _⟩

theorem unbroken_read {after : Managed} {run : Nat} {result : ReadResult} {events : List Event}
    (h : managed.read run result = some (after, events))
    (settled : ∀ reader ∈ managed.readers, reader.buffer.Settled) :
    (∀ reader ∈ after.readers, reader.buffer.Settled) ∧ ∀ event ∈ events, event.Unbroken := by
  obtain ⟨reader, hreader, heq⟩ := Option.map_eq_some_iff.mp h
  obtain ⟨hsettled, hcopied⟩ :=
    Reader.unbroken_step (settled reader (List.mem_of_getElem? hreader)) run result
  cases heq
  refine ⟨fun other hother ↦ ?_, List.forall_mem_map.mpr hcopied⟩
  rcases List.mem_or_eq_of_mem_set hother with hold | rfl
  · exact settled other hold
  · exact hsettled

/-- A call of the shutdown shows no line feed if the answer of the system holds none. -/
theorem unbroken_signal {notice : Notice} {signal : Signal} {sent : Except Failure Unit}
    (line : Text.OneLine notice.text) (answer : ErrorOneLine Failure.message sent) :
    ∀ event ∈ managed.signal notice signal sent, event.Unbroken := by
  unfold Managed.signal
  split
  · exact List.forall_mem_nil _
  · rw [List.forall_mem_cons, List.forall_mem_cons]
    refine ⟨line, trivial, ?_⟩
    split
    · exact List.forall_mem_nil _
    · exact List.forall_mem_singleton.mpr answer

end Managed

namespace Task

variable {stopping : Bool} {task : Task} {move : TaskMove} {step : TaskStep}

theorem unbroken_leave {result : Except Failure Unit} {notices : List Notice}
    (settled : ∀ reader ∈ task.managed.readers, reader.buffer.Settled)
    (lines : ∀ notice ∈ notices, Text.OneLine notice.text) :
    (task.leave result notices).task.Unbroken ∧
      ∀ event ∈ (task.leave result notices).events, event.Unbroken := by
  refine ⟨⟨settled, nofun⟩, ?_⟩
  rw [leave, List.forall_mem_append, List.forall_mem_map, List.forall_mem_singleton]
  exact ⟨lines, trivial⟩

/-- A restart loop shows no line feed if the program and the answers of the system hold none. -/
theorem Moved.unbroken (h : Moved stopping task move step)
    (program : Text.OneLine task.managed.spec.command.program)
    (answer : move.Unbroken task.managed.spec.command.program) (unbroken : task.Unbroken) :
    step.task.Unbroken ∧ ∀ event ∈ step.events, event.Unbroken := by
  obtain ⟨settled, hphase⟩ := unbroken
  cases h with
  | read hread =>
    obtain ⟨hsettled, hevents⟩ := Managed.unbroken_read hread settled
    exact ⟨⟨hsettled, hphase⟩, hevents⟩
  | run at_ hmoved =>
    obtain ⟨hafter, hevents⟩ := hmoved.unbroken program answer (hphase _ at_)
    refine ⟨⟨hmoved.settled settled, fun phase h ↦ ?_⟩, hevents⟩
    cases h
    exact hafter
  | failed at_ fatal =>
    exact unbroken_leave settled (List.forall_mem_singleton.mpr (hphase _ at_))
  | failedOnce at_ mild =>
    exact ⟨⟨settled, nofun⟩, List.forall_mem_singleton.mpr (hphase _ at_)⟩
  | succeeded | unstopped => exact ⟨⟨settled, nofun⟩, List.forall_mem_nil _⟩
  | stopped | cancelled => exact unbroken_leave settled (List.forall_mem_nil _)
  | done | exhausted => exact unbroken_leave settled (List.forall_mem_singleton.mpr (by decide))
  | @retried attempt delay =>
    refine ⟨⟨settled, nofun⟩, List.forall_mem_cons.mpr ⟨trivial, ?_⟩⟩
    exact List.forall_mem_singleton.mpr (Notice.oneLine_restarting attempt delay)
  | woken =>
    refine ⟨⟨settled, fun phase h ↦ ?_⟩, List.forall_mem_nil _⟩
    cases h
    trivial

end Task

/-! ## Executions -/

section

variable {index : Nat} {managed : Managed}

/-- A process shows no line feed in a transition if its program and the answers of the system hold
none. -/
theorem Transition.Seen.unbroken {transition : Transition} {task after : Task}
    {processes : List Managed} (seen : transition.Seen index task after)
    (registered : processes[index]? = some managed) (spec : task.managed.spec = managed.spec)
    (program : Text.OneLine managed.spec.command.program)
    (answer : transition.move.Unbroken processes) (unbroken : task.Unbroken) :
    after.Unbroken ∧ ∀ event ∈ transition.eventsOf index, event.Unbroken := by
  cases seen with
  | own made moved stopping uncalled events =>
    rw [made] at answer
    have hanswer := answer managed registered
    rw [← spec] at program hanswer
    rw [events]
    exact moved.unbroken program hanswer unbroken
  | interrupted made called free events =>
    rw [made] at answer
    rw [events]
    exact ⟨unbroken, Managed.unbroken_signal (Notice.oneLine_stopping _) answer⟩
  | killed made called free events =>
    rw [made] at answer
    rw [events]
    exact ⟨unbroken, Managed.unbroken_signal (by decide) answer⟩
  | apart unmoved uncalled events =>
    rw [events]
    exact ⟨unbroken, List.forall_mem_nil _⟩

/-- A process shows no line feed in an execution if its program and the answers of the system hold
none. -/
theorem Execution.unbroken {supervisor : Supervisor} {past : List Transition} {system : System}
    (assembled : supervisor.Assembled) (run : Execution (.ofSupervisor supervisor) past system)
    (registered : supervisor.processes[index]? = some managed)
    (program : Text.OneLine managed.spec.command.program)
    (answers : ∀ transition ∈ past, transition.move.Unbroken supervisor.processes) :
    ∀ event ∈ eventsOf index past, event.Unbroken := by
  have hfresh : managed.Fresh := assembled.fresh managed (List.mem_of_getElem? registered)
  have key : ∃ task, system.tasks[index]? = some task ∧ task.managed.spec = managed.spec ∧
      ((∀ transition ∈ past, transition.move.Unbroken supervisor.processes) →
        task.Unbroken ∧ ∀ event ∈ eventsOf index past, event.Unbroken) := by
    refine run.process_induction
      (motive := fun past _ task ↦ task.managed.spec = managed.spec ∧
        ((∀ transition ∈ past, transition.move.Unbroken supervisor.processes) →
          task.Unbroken ∧ ∀ event ∈ eventsOf index past, event.Unbroken))
      (System.tasks_ofSupervisor registered)
      ⟨rfl, fun _ ↦ ⟨Task.unbroken_ofManaged hfresh, List.forall_mem_nil _⟩⟩ ?_
    intro past transition task after _ _ _ seen ⟨hspec, ih⟩
    refine ⟨seen.spec.trans hspec, fun hanswers ↦ ?_⟩
    rw [List.forall_mem_append, List.forall_mem_singleton] at hanswers
    obtain ⟨hunbroken, hevents⟩ := ih hanswers.1
    obtain ⟨hafter, hnew⟩ := seen.unbroken registered hspec program hanswers.2 hunbroken
    rw [eventsOf_append, eventsOf_singleton, List.forall_mem_append]
    exact ⟨hafter, hevents, hnew⟩
  obtain ⟨_, _, _, hrest⟩ := key
  exact (hrest answers).2

end

end Supervision
