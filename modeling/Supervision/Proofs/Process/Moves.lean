import Supervision.Process.Task

/-!
# The moves of a process, case by case

What a run can do next and what a restart loop can do next, as relations with one case for each way
a move can come out.  Everything that is proved about processes is proved case by case over these.
-/

namespace Supervision

namespace Managed

/-- The ways in which a move of a run comes out. -/
inductive Moved (stopping : Bool) (managed : Managed) : RunPhase → RunMove → RunStep → Prop
  | opened : Moved stopping managed .opening (.openChannel (.ok ()))
      ⟨{ managed with readers := managed.readers ++ [.start] }, .atGate, []⟩
  | openFailed (failure : Failure) : Moved stopping managed .opening
      (.openChannel (.error failure)) ⟨managed, .returned (.error failure), []⟩
  | locked : Moved stopping managed .atGate .lock ⟨managed, .checking, []⟩
  | refused (prepared : Except Failure Unit) (h : stopping = true) :
      Moved stopping managed .checking (.check prepared) ⟨managed, .returned (.ok none), []⟩
  | unprepared (failure : Failure) (h : stopping = false) : Moved stopping managed .checking
      (.check (.error failure)) ⟨managed, .returned (.error failure), []⟩
  | passed (h : stopping = false) :
      Moved stopping managed .checking (.check (.ok ())) ⟨managed, .launching, [.wrote .running]⟩
  | launched (pid : UInt32) : Moved stopping managed .launching (.launch (.ok pid))
      ⟨{ managed with pid := some pid }, .recorded pid, [.spawned pid]⟩
  | launchFailed (failure : Failure) : Moved stopping managed .launching
      (.launch (.error failure)) ⟨managed, .returned (.error failure), []⟩
  | announced (pid : UInt32) : Moved stopping managed (.recorded pid) .announce
      ⟨{ managed with state := .running }, .waiting pid, [.published .running]⟩
  | waited (pid : UInt32) (waited : Waited) : Moved stopping managed (.waiting pid)
      (.reap waited) ⟨managed, .reaped waited, [endOfWait pid waited]⟩
  | cleared (waited : Waited) : Moved stopping managed (.reaped waited) .clear
      ⟨{ managed with pid := none }, .cleared waited, []⟩
  | published (waited : Waited) : Moved stopping managed (.cleared waited) .publish
      ⟨{ managed with state := .exited }, .draining waited, [.published .exited]⟩
  | drained (waited : Waited) (h : managed.isDrained = true) : Moved stopping managed
      (.draining waited) .drained ⟨managed, .reporting waited, []⟩
  | drainExpired (waited : Waited) : Moved stopping managed (.draining waited) .drainExpired
      ⟨managed, .reporting waited, []⟩
  | reported (status : ExitStatus) : Moved stopping managed (.reporting (.ok status)) .report
      ⟨{ managed with lastExit := some status }, .returned (.ok (some status)),
      [.wrote (.exited status)]⟩
  | reportedLoss (cause : IoCause) : Moved stopping managed (.reporting (.error cause)) .report
      ⟨managed, .returned (.ok none), [.wrote (.waitFailed cause)]⟩

/-- A move of a run that can be made comes out in one of these ways. -/
theorem moved_of_advance {stopping : Bool} {managed : Managed} {phase : RunPhase} {move : RunMove}
    {step : RunStep} (h : managed.advance stopping phase move = some step) :
    Moved stopping managed phase move step := by
  unfold advance at h
  split at h
  · cases h; exact .opened
  · cases h; exact .openFailed _
  · cases h; exact .locked
  · split at h
    · cases h; exact .refused _ ‹stopping = true›
    · have hgo : stopping = false := by simpa using ‹¬stopping = true›
      split at h
      · cases h; exact .passed hgo
      · cases h; exact .unprepared _ hgo
  · cases h; exact .launched _
  · cases h; exact .launchFailed _
  · cases h; exact .announced _
  · cases h; exact .waited _ _
  · cases h; exact .cleared _
  · cases h; exact .published _
  · obtain ⟨_, hdrain, rfl⟩ := Option.map_eq_some_iff.mp h
    refine .drained _ ?_
    cases hdrained : managed.isDrained with
    | true => rfl
    | false => simp [hdrained] at hdrain
  · obtain ⟨_, _, rfl⟩ := Option.map_eq_some_iff.mp h
    exact .drainExpired _
  · cases h; exact .reported _
  · cases h; exact .reportedLoss _
  · cases h

/-- All of these ways are possible. -/
theorem Moved.advance_eq {stopping : Bool} {managed : Managed} {phase : RunPhase} {move : RunMove}
    {step : RunStep} (h : Moved stopping managed phase move step) :
    managed.advance stopping phase move = some step := by
  cases h with
  | refused prepared h | unprepared failure h | passed h => simp [advance, h]
  | drained waited h => simp [advance, h]
  | drainExpired waited => cases h : managed.isDrained <;> simp [advance, h]
  | _ => rfl

end Managed

namespace Task

/-- The ways in which a move of a restart loop comes out. -/
inductive Moved (stopping : Bool) (task : Task) : TaskMove → TaskStep → Prop
  | read {run : Nat} {result : Output.ReadResult} {managed : Managed} {events : List Event}
      (h : task.managed.read run result = some (managed, events)) :
      Moved stopping task (.read run result) ⟨{ task with managed }, events⟩
  | run {phase : RunPhase} {move : RunMove} {step : RunStep} (at_ : task.phase = .running phase)
      (h : Managed.Moved stopping task.managed phase move step) :
      Moved stopping task (.run move)
        ⟨{ task with managed := step.managed, phase := .running step.phase }, step.events⟩
  | succeeded {status : Option ExitStatus}
      (at_ : task.phase = .running (.returned (.ok status))) :
      Moved stopping task .settle ⟨{ task with started := true, phase := .checking }, []⟩
  | failed {failure : Failure} (at_ : task.phase = .running (.returned (.error failure)))
      (fatal : task.started = false ∨ failure.isConfiguration = true) :
      Moved stopping task .settle (task.leave (.error failure) [.failed failure])
  | failedOnce {failure : Failure} (at_ : task.phase = .running (.returned (.error failure)))
      (mild : task.started = true ∧ failure.isConfiguration = false) :
      Moved stopping task .settle
        ⟨{ task with started := true, phase := .checking }, [.wrote (.failed failure)]⟩
  | stopped (at_ : task.phase = .checking) (h : stopping = true) :
      Moved stopping task .check (task.leave (.ok ()) [])
  | unstopped (at_ : task.phase = .checking) (h : stopping = false) :
      Moved stopping task .check ⟨{ task with phase := .deciding }, []⟩
  | done (at_ : task.phase = .deciding) (h : task.tracker.next.1 = .done) :
      Moved stopping task .decide
        (leave { task with tracker := task.tracker.next.2 } (.ok ()) [.done])
  | exhausted {restarts : UInt32} (at_ : task.phase = .deciding)
      (h : task.tracker.next.1 = .exhausted restarts) :
      Moved stopping task .decide
        (leave { task with tracker := task.tracker.next.2 }
          (.error (.restartsExhausted task.managed.name)) [.exhausted])
  | retried {attempt : UInt32} {delay : Span} (at_ : task.phase = .deciding)
      (h : task.tracker.next.1 = .retry attempt delay) :
      Moved stopping task .decide
        ⟨{ task with
          tracker := task.tracker.next.2
          managed := { task.managed with restarts := attempt, state := .restarting }
          phase := .delaying delay },
        [.published .restarting, .wrote (.restarting attempt delay)]⟩
  | woken {delay : Span} (at_ : task.phase = .delaying delay) :
      Moved stopping task .wake ⟨{ task with phase := .running .opening }, []⟩
  | cancelled {delay : Span} (at_ : task.phase = .delaying delay) (h : stopping = true) :
      Moved stopping task .cancel (task.leave (.ok ()) [])

theorem moved_settle {stopping : Bool} {task : Task} {result : RunResult}
    (at_ : task.phase = .running (.returned result)) :
    Moved stopping task .settle (task.settle result) := by
  cases result with
  | ok status => exact .succeeded at_
  | error failure =>
    simp only [settle]
    split
    · exact .failed at_ (by simpa using ‹(!task.started || failure.isConfiguration) = true›)
    · exact .failedOnce at_ (by simpa using ‹¬(!task.started || failure.isConfiguration) = true›)

theorem moved_decide {stopping : Bool} {task : Task} (at_ : task.phase = .deciding) :
    Moved stopping task .decide task.decide := by
  have hnext : task.tracker.next = (task.tracker.next.1, task.tracker.next.2) := rfl
  unfold decide
  rw [hnext]
  cases hdecision : task.tracker.next.1 with
  | done => exact .done at_ hdecision
  | exhausted restarts => exact .exhausted at_ hdecision
  | retry attempt delay => exact .retried at_ hdecision

/-- A move of a restart loop that can be made comes out in one of these ways. -/
theorem moved_of_advance {stopping : Bool} {task : Task} {move : TaskMove} {step : TaskStep}
    (h : task.advance stopping move = some step) : Moved stopping task move step := by
  cases move with
  | read run result =>
    obtain ⟨⟨managed, events⟩, hread, rfl⟩ := Option.map_eq_some_iff.mp h
    exact .read hread
  | run move =>
    simp only [advance] at h
    split at h
    · rename_i phase hphase
      obtain ⟨inner, hinner, rfl⟩ := Option.map_eq_some_iff.mp h
      exact .run hphase (Managed.moved_of_advance hinner)
    · cases h
  | settle =>
    simp only [advance] at h
    split at h
    · cases h; exact moved_settle ‹_›
    · cases h
  | check =>
    simp only [advance] at h
    split at h
    · split at h
      · cases h; exact .stopped ‹_› ‹_›
      · cases h; exact .unstopped ‹_› (by simpa using ‹¬stopping = true›)
    · cases h
  | decide =>
    simp only [advance] at h
    split at h
    · cases h; exact moved_decide ‹_›
    · cases h
  | wake =>
    simp only [advance] at h
    split at h
    · cases h; exact .woken ‹_›
    · cases h
  | cancel =>
    simp only [advance] at h
    split at h
    · split at h
      · cases h; exact .cancelled ‹_› ‹_›
      · cases h
    · cases h

theorem Moved.advance_eq {stopping : Bool} {task : Task} {move : TaskMove} {step : TaskStep}
    (h : Moved stopping task move step) : task.advance stopping move = some step := by
  cases h with
  | read hread => simp [advance, hread]
  | run at_ h => simp [advance, at_, h.advance_eq]
  | succeeded at_ => simp [advance, at_, settle]
  | failed at_ fatal => simp [advance, at_, settle, fatal]
  | failedOnce at_ mild => simp [advance, at_, settle, mild]
  | stopped at_ h | unstopped at_ h => simp [advance, at_, h]
  | done at_ h | exhausted at_ h | retried at_ h => simp [advance, at_, decide, h]
  | woken at_ => simp [advance, at_]
  | cancelled at_ h => simp [advance, at_, h]

/-- Where a loop has returned, only output is still read. -/
theorem Moved.read_of_returned {stopping : Bool} {task : Task} {move : TaskMove} {step : TaskStep}
    {result : Except Failure Unit} (h : Moved stopping task move step)
    (at_ : task.phase = .returned result) :
    ∃ run read, move = .read run read ∧
      task.managed.read run read = some (step.task.managed, step.events) ∧
        step.task.phase = .returned result := by
  cases h with
  | read hread => exact ⟨_, _, rfl, hread, at_⟩
  | run other | succeeded other | failed other | failedOnce other | stopped other | unstopped other
  | done other | exhausted other | retried other | woken other | cancelled other =>
    rw [at_] at other
    cases other

end Task

end Supervision
