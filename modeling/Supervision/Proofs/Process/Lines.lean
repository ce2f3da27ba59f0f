import Supervision.Proofs.Process.Enclosed

/-!
# The lines of a process

The task of a process and the shutdown write into one log, and together they write a chronicle.  A
line about a signal stands between the lines that the child runs and that it has exited: the lock is
held from the one line until the child is recorded, and the record is cleared before the other.
-/

namespace Supervision

def lines (index : Nat) (past : List Transition) : List Notice := notices (eventsOf index past)

@[simp]
theorem lines_append (index : Nat) (past future : List Transition) :
    lines index (past ++ future) = lines index past ++ lines index future := by
  simp [lines]

theorem lines_singleton (index : Nat) (transition : Transition) :
    lines index [transition] = notices (transition.eventsOf index) := by
  simp [lines]

/-! ## The lines of a transition -/

/-- What may be told after what: one line each that the stop signal and SIGKILL are sent, the one
before the other, and no start after either. -/
def Notice.Precedes : Notice → Notice → Prop
  | .stopping _, .stopping _ | .stopping _, .running => False
  | .killing, .killing | .killing, .stopping _ | .killing, .running => False
  | _, _ => True

theorem Notice.precedes_of_not_sends {notice later : Notice} (h : notice.sends = false) :
    notice.Precedes later := by
  cases notice <;> simp_all [Precedes, sends]

/-- Why a line is written in a transition. -/
inductive Transition.Writes (transition : Transition) (index : Nat) (task : Task) : Notice → Prop
  | stopping (called : transition.call? = some (.interrupt index))
      (recorded : task.managed.pid ≠ none) :
      transition.Writes index task (.stopping task.managed.spec.stopSignal)
  | killing (called : transition.call? = some (.kill index))
      (recorded : task.managed.pid ≠ none) : transition.Writes index task .killing
  | other {notice : Notice} (silent : notice.sends = false)
      (unasked : notice = .running → transition.before.stopping = false) :
      transition.Writes index task notice

namespace Task

variable {stopping : Bool} {task : Task} {move : TaskMove} {step : TaskStep}

/-- A loop writes at most one line in a move. -/
theorem Moved.notices_eq (h : Moved stopping task move step) :
    notices step.events = [] ∨ ∃ notice, notices step.events = [notice] ∧ notice.sends = false ∧
      (notice = .running → stopping = false) := by
  cases h with
  | read hread =>
    refine .inl (List.filterMap_eq_nil_iff.mpr fun event hevent ↦ ?_)
    obtain ⟨_, rfl⟩ := Managed.copied_of_mem_read hread hevent
    rfl
  | run at_ h =>
    cases h with
    | passed unasked => exact .inr ⟨.running, rfl, rfl, fun _ ↦ unasked⟩
    | waited pid waited => cases waited <;> exact .inl rfl
    | reported | reportedLoss => exact .inr ⟨_, rfl, rfl, nofun⟩
    | _ => exact .inl rfl
  | failed | failedOnce | done | exhausted | retried => exact .inr ⟨_, rfl, rfl, nofun⟩
  | succeeded | stopped | unstopped | woken | cancelled => exact .inl rfl

end Task

/-- A call writes its line, and after it why the signal could not be sent, if a child is recorded. -/
theorem Managed.notices_signal (managed : Managed) (notice : Notice) (signal : Signal)
    (sent : Except Failure Unit) :
    notices (managed.signal notice signal sent) = [] ∧ managed.pid = none ∨
    ∃ failures : List Failure, managed.pid ≠ none ∧
      notices (managed.signal notice signal sent) = notice :: failures.map .signalFailed := by
  unfold Managed.signal
  cases managed.pid with
  | none => exact .inl ⟨rfl, rfl⟩
  | some pid =>
    cases sent with
    | ok _ => exact .inr ⟨[], nofun, rfl⟩
    | error failure => exact .inr ⟨[failure], nofun, rfl⟩

namespace Transition.Seen

variable {transition : Transition} {index : Nat} {task after : Task}

/-- Every line has its reason in the move in which it is written. -/
theorem writes (seen : transition.Seen index task after) :
    ∀ notice ∈ notices (transition.eventsOf index), transition.Writes index task notice := by
  have hsignal {notice : Notice} {signal : Signal} {sent : Except Failure Unit}
      (writes : task.managed.pid ≠ none → transition.Writes index task notice) :
      ∀ line ∈ notices (task.managed.signal notice signal sent),
        transition.Writes index task line := by
    rcases task.managed.notices_signal notice signal sent with
      ⟨hnone, _⟩ | ⟨failures, recorded, hlines⟩
    · simp [hnone]
    · rw [hlines, List.forall_mem_cons]
      refine ⟨writes recorded, List.forall_mem_map.mpr fun failure _ ↦ .other rfl nofun⟩
  cases seen with
  | own made moved stopping uncalled events =>
    rw [events]
    rcases moved.notices_eq with hnone | ⟨notice, hnotice, silent, unasked⟩
    · simp [hnone]
    · simpa [hnotice] using .other silent unasked
  | interrupted made called free events =>
    rw [events]
    exact hsignal (.stopping called)
  | killed made called free events =>
    rw [events]
    exact hsignal (.killing called)
  | apart unmoved uncalled events => simp [events]

/-- The lines of one move are in order. -/
theorem orderly (seen : transition.Seen index task after) :
    (notices (transition.eventsOf index)).Pairwise Notice.Precedes := by
  have hsignal {notice : Notice} {signal : Signal} {sent : Except Failure Unit}
      (h : ∀ failure, notice.Precedes (.signalFailed failure)) :
      (notices (task.managed.signal notice signal sent)).Pairwise Notice.Precedes := by
    rcases task.managed.notices_signal notice signal sent with
      ⟨hnone, _⟩ | ⟨failures, _, hlines⟩
    · simp [hnone]
    · rw [hlines, List.pairwise_cons]
      refine ⟨List.forall_mem_map.mpr fun failure _ ↦ h failure, ?_⟩
      exact List.Pairwise.map _ (fun _ _ _ ↦ trivial) (List.pairwise_of_forall fun _ _ ↦ trivial)
  cases seen with
  | own made moved stopping uncalled events =>
    rw [events]
    rcases moved.notices_eq with hnone | ⟨notice, hnotice, _⟩
    · simp [hnone]
    · simp [hnotice]
  | interrupted made called free events =>
    rw [events]
    exact hsignal fun _ ↦ trivial
  | killed made called free events =>
    rw [events]
    exact hsignal fun _ ↦ trivial
  | apart unmoved uncalled events => simp [events]

/-- A process that is interrupted while a child is recorded is said to be told to stop. -/
theorem stopping_mem (seen : transition.Seen index task after)
    (called : transition.call? = some (.interrupt index)) (recorded : after.managed.pid ≠ none) :
    .stopping task.managed.spec.stopSignal ∈ notices (transition.eventsOf index) := by
  cases seen with
  | own made moved stopping uncalled events => simp [uncalled] at called
  | @interrupted sent made _ free events =>
    rw [events, Managed.interrupt]
    rcases task.managed.notices_signal (.stopping task.managed.spec.stopSignal)
      task.managed.spec.stopSignal sent with ⟨_, unrecorded⟩ | ⟨failures, _, hlines⟩
    · exact absurd unrecorded recorded
    · simp [hlines]
  | killed made killed free events => simp [killed] at called
  | apart unmoved uncalled events => exact absurd called uncalled.1

/-- What a transition tells of a process goes on with its chronicle. -/
theorem tells {spec : ProcessSpec} {events : List Event} (seen : transition.Seen index task after)
    (made : transition.before.advance transition.move = some transition.step)
    (sound : task.Sound) (hspec : task.managed.spec = spec)
    (tells : task.Tells spec transition.before.stopping events) :
    after.Tells spec transition.step.system.stopping
      (events ++ told (transition.eventsOf index)) := by
  have hstopping := (System.moved_of_advance made).stopping
  suffices h : after.Tells spec transition.before.stopping
      (events ++ told (transition.eventsOf index)) by
    obtain ⟨restarts, htracker, htold⟩ := h
    exact ⟨restarts, htracker, htold.mono hstopping⟩
  cases seen with
  | own made moved stopping uncalled events =>
    rw [events]
    exact moved.tells tells
  | interrupted made called free events =>
    rw [events]
    exact tells.signalled sound free (.inl (by rw [hspec]))
  | killed made called free events =>
    rw [events]
    exact tells.signalled sound free (.inr rfl)
  | apart unmoved uncalled events =>
    rw [events, told_nil, List.append_nil]
    exact tells

/-- Nothing is told of a process whose loop has returned. -/
theorem told_of_returned {result : Except Failure Unit} (seen : transition.Seen index task after)
    (sound : task.Sound) (at_ : task.phase = .returned result) :
    after.phase = .returned result ∧ told (transition.eventsOf index) = [] := by
  have hpid : task.managed.pid = none := by
    unfold Task.Sound at sound
    rw [at_] at sound
    exact sound.1
  cases seen with
  | own made moved stopping uncalled events =>
    rw [events]
    exact ⟨(moved.of_returned at_).1, moved.told_of_returned at_⟩
  | interrupted made called free events | killed made called free events =>
    rw [events]
    exact ⟨at_, Managed.told_signal_of_no_pid hpid⟩
  | apart unmoved uncalled events =>
    rw [events]
    exact ⟨at_, rfl⟩

end Transition.Seen

/-! ## Executions -/

/-- What the lines of a process say of the shutdown, and of its child. -/
structure LinesSound (spec : ProcessSpec) (index : Nat) (past : List Transition) (task : Task) :
    Prop where
  orderly : (lines index past).Pairwise Notice.Precedes
  interrupted : ∀ signal, .stopping signal ∈ lines index past →
    signal = spec.stopSignal ∧ .interrupt index ∈ calls past
  killed : .killing ∈ lines index past → .kill index ∈ calls past
  warned : .interrupt index ∈ calls past → task.managed.pid ≠ none →
    .stopping spec.stopSignal ∈ lines index past
  warned_first : .killing ∈ lines index past → .stopping spec.stopSignal ∈ lines index past

theorem linesSound_nil (spec : ProcessSpec) (index : Nat) (task : Task) :
    LinesSound spec index [] task where
  orderly := .nil
  interrupted _ h := absurd h List.not_mem_nil
  killed h := absurd h List.not_mem_nil
  warned h := absurd h List.not_mem_nil
  warned_first h := absurd h List.not_mem_nil

section

variable {supervisor : Supervisor} {spec : ProcessSpec} {index : Nat} {past : List Transition}
  {transition : Transition} {task after : Task}
  (run : Execution (.ofSupervisor supervisor) past transition.before)
  (made : transition.before.advance transition.move = some transition.step)

include run made

/-- A new line may be told after those before it. -/
theorem LinesSound.precedes (sound : LinesSound spec index past task)
    (hindex : index < supervisor.processes.length) {line notice : Notice}
    (hline : line ∈ lines index past) (writes : transition.Writes index task notice) :
    line.Precedes notice := by
  have hother {call : ShutdownCall} (hcall : call ∈ calls past) (silent : notice.sends = false)
      (unasked : notice = .running → transition.before.stopping = false) :
      notice.sends = false ∧ notice ≠ .running := by
    refine ⟨silent, fun hrunning ↦ ?_⟩
    exact Bool.false_ne_true ((unasked hrunning).symm.trans (run.stopping_of_call hcall))
  cases line with
  | stopping signal =>
    obtain ⟨_, hcall⟩ := sound.interrupted signal hline
    cases writes with
    | stopping called _ => exact run.not_mem_calls_of_call made called hcall
    | killing => trivial
    | other silent unasked =>
      obtain ⟨_, hnot⟩ := hother hcall silent unasked
      cases notice <;> simp_all [Notice.Precedes, Notice.sends]
  | killing =>
    have hcall := sound.killed hline
    cases writes with
    | stopping called _ => exact run.kill_not_mem_of_interrupt_call made hindex called hcall
    | killing called _ => exact run.not_mem_calls_of_call made called hcall
    | other silent unasked =>
      obtain ⟨_, hnot⟩ := hother hcall silent unasked
      cases notice <;> simp_all [Notice.Precedes, Notice.sends]
  | _ => exact Notice.precedes_of_not_sends rfl

/-- One move keeps what the lines say.  A process that was interrupted is not about to start a
child, so a child that is recorded after that was recorded before, and was warned. -/
theorem LinesSound.advance (sound : LinesSound spec index past task)
    (hindex : index < supervisor.processes.length)
    (present : transition.before.tasks[index]? = some task) (hspec : task.managed.spec = spec)
    (seen : transition.Seen index task after) :
    LinesSound spec index (past ++ [transition]) after := by
  have hcalls : calls (past ++ [transition]) = calls past ++ transition.call?.toList := by
    rw [calls_append, calls_singleton]
  have hlines : lines index (past ++ [transition]) =
      lines index past ++ notices (transition.eventsOf index) := by
    rw [lines_append, lines_singleton]
  have hmem {notice : Notice} (h : notice ∈ lines index (past ++ [transition])) :
      notice ∈ lines index past ∨ transition.Writes index task notice := by
    rw [hlines] at h
    exact (List.mem_append.mp h).imp_right (seen.writes notice)
  have hcalled {call : ShutdownCall} (called : transition.call? = some call) :
      call ∈ calls (past ++ [transition]) := by
    rw [hcalls, called]
    simp
  constructor
  case orderly =>
    rw [hlines]
    refine List.pairwise_append.mpr ⟨sound.orderly, seen.orderly, fun line hline notice hnew ↦ ?_⟩
    exact sound.precedes run made hindex hline (seen.writes notice hnew)
  case interrupted =>
    intro signal h
    rcases hmem h with hpast | hnew
    · obtain ⟨hsignal, hcall⟩ := sound.interrupted signal hpast
      exact ⟨hsignal, hcalls ▸ List.mem_append_left _ hcall⟩
    · cases hnew with
      | stopping called _ => exact ⟨congrArg _ hspec, hcalled called⟩
      | other silent _ => cases silent
  case killed =>
    intro h
    rcases hmem h with hpast | hnew
    · exact hcalls ▸ List.mem_append_left _ (sound.killed hpast)
    · cases hnew with
      | killing called _ => exact hcalled called
      | other silent _ => cases silent
  case warned =>
    intro hinterrupt recorded
    rw [hcalls] at hinterrupt
    rw [hlines]
    rcases List.mem_append.mp hinterrupt with hpast | hnew
    · have hquiet : task.Quiet := run.quiet_at hpast present
      have hrecorded : task.managed.pid ≠ none := fun h ↦ recorded (seen.pid_eq_none hquiet h)
      exact List.mem_append_left _ (sound.warned hpast hrecorded)
    · have hstopping := seen.stopping_mem (Option.mem_toList.mp hnew) recorded
      exact List.mem_append_right _ (hspec ▸ hstopping)
  case warned_first =>
    intro h
    rw [hlines]
    refine List.mem_append_left _ ?_
    rcases hmem h with hpast | hnew
    · exact sound.warned_first hpast
    · cases hnew with
      | killing called recorded =>
        exact sound.warned (run.interrupt_mem_of_kill_call made hindex called) recorded
      | other silent _ => cases silent

end

section

variable {supervisor : Supervisor} {past : List Transition} {system : System} {index : Nat}
  {managed : Managed} (assembled : supervisor.Assembled)
  (run : Execution (.ofSupervisor supervisor) past system)
  (registered : supervisor.processes[index]? = some managed)

include assembled run registered

theorem Execution.linesSound :
    ∃ task, system.tasks[index]? = some task ∧
      task.Tells managed.spec system.stopping (told (eventsOf index past)) ∧
        LinesSound managed.spec index past task := by
  have hfresh : managed.Fresh := assembled.fresh managed (List.mem_of_getElem? registered)
  obtain ⟨hindex, _⟩ := List.getElem?_eq_some_iff.mp registered
  have key : ∃ task, system.tasks[index]? = some task ∧ task.Sound ∧
      task.managed.spec = managed.spec ∧
        task.Tells managed.spec system.stopping (told (eventsOf index past)) ∧
          LinesSound managed.spec index past task := by
    refine run.process_induction
      (motive := fun past system task ↦ task.Sound ∧ task.managed.spec = managed.spec ∧
        task.Tells managed.spec system.stopping (told (eventsOf index past)) ∧
          LinesSound managed.spec index past task) (System.tasks_ofSupervisor registered)
      ⟨Task.sound_ofManaged hfresh, rfl, Task.tells_ofManaged managed _, linesSound_nil ..⟩ ?_
    intro past transition task after before made present seen ⟨hsound, hspec, htells, hlines⟩
    refine ⟨seen.sound hsound, seen.spec.trans hspec, ?_, ?_⟩
    · rw [eventsOf_append, eventsOf_singleton, told_append]
      exact seen.tells made hsound hspec htells
    · exact hlines.advance before made hindex present hspec seen
  obtain ⟨task, present, _, _, hrest⟩ := key
  exact ⟨task, present, hrest⟩

/-- Nothing more is told of a process once its loop has returned. -/
theorem Execution.told_eq_nil {future : List Transition} {final : System}
    {result : Except Failure Unit} (at_ : system.phase? index = some (.returned result))
    (rest : Execution system future final) : told (eventsOf index future) = [] := by
  obtain ⟨task, present, hphase⟩ := Option.map_eq_some_iff.mp at_
  obtain ⟨hsound, _⟩ := run.sound_at assembled registered present
  have key : ∃ task, final.tasks[index]? = some task ∧ task.Sound ∧
      task.phase = .returned result ∧ told (eventsOf index future) = [] := by
    refine rest.process_induction
      (motive := fun future _ task ↦ task.Sound ∧ task.phase = .returned result ∧
        told (eventsOf index future) = []) present ⟨hsound, hphase, rfl⟩ ?_
    intro future transition task after _ _ _ seen ⟨hsound, hphase, hnone⟩
    obtain ⟨hreturned, hnow⟩ := seen.told_of_returned hsound hphase
    exact ⟨seen.sound hsound, hreturned, by simp [hnone, hnow]⟩
  obtain ⟨_, _, _, _, hnone⟩ := key
  exact hnone

end

/-- The lines about a process in every execution, whatever the shutdown does meanwhile. -/
structure LinesInOrder (spec : ProcessSpec) (index : Nat) (past : List Transition)
    (system : System) : Prop where
  /-- What has been told begins a chronicle. -/
  begins : ∃ rest, Chronicle spec system.stopping (told (eventsOf index past) ++ rest)
  /-- When the loop has returned, the chronicle is whole and nothing is added to it. -/
  whole : ∀ result, system.phase? index = some (.returned result) →
    Chronicle spec system.stopping (told (eventsOf index past)) ∧
      Enclosed (lines index past) ∧
        ∀ future final, Execution system future final → told (eventsOf index future) = []
  /-- A line that a signal is sent stands after the line that the child runs, and before any other
  line that is not about signals there is the one how the child has ended. -/
  enclosed : ∀ earlier notice later, lines index past = earlier ++ notice :: later →
    notice.sends = true →
      (∃ front between, earlier = front ++ .running :: between ∧
        ∀ line ∈ between, line.aboutSignal = true) ∧
      ((∀ line ∈ later, line.aboutSignal = true) ∨
        ∃ after last rest, later = after ++ last :: rest ∧
          (∀ line ∈ after, line.aboutSignal = true) ∧ last.tellsEnd = true)
  /-- A process is told to stop once, and not started after that. -/
  stopping_once : ∀ earlier signal later,
    lines index past = earlier ++ .stopping signal :: later →
      signal = spec.stopSignal ∧ (∀ other, .stopping other ∉ later) ∧ .running ∉ later
  /-- It is killed once, after it was told to stop. -/
  killing_once : ∀ earlier later, lines index past = earlier ++ .killing :: later →
    .stopping spec.stopSignal ∈ earlier ∧ .killing ∉ later ∧ .running ∉ later

/-- The lines about every process are in order in every execution. -/
theorem lines_in_order {supervisor : Supervisor} {past : List Transition} {system : System}
    {index : Nat} {managed : Managed} (assembled : supervisor.Assembled)
    (run : Execution (.ofSupervisor supervisor) past system)
    (registered : supervisor.processes[index]? = some managed) :
    LinesInOrder managed.spec index past system := by
  obtain ⟨task, present, ⟨restarts, _, htold⟩, hlines⟩ := run.linesSound assembled registered
  have hfollows {earlier later : List Notice} {line notice : Notice}
      (hsplit : lines index past = earlier ++ line :: later) (h : notice ∈ later) :
      line.Precedes notice := by
    have horderly := hlines.orderly
    rw [hsplit] at horderly
    exact (List.pairwise_cons.mp (List.pairwise_append.mp horderly).2.1).1 notice h
  constructor
  case begins => exact htold.completes
  case whole =>
    intro result hreturned
    have hphase : task.phase = .returned result := by
      simpa [System.phase?, present] using hreturned
    rw [hphase] at htold
    have hchronicle : Chronicle managed.spec system.stopping (told (eventsOf index past)) := htold
    refine ⟨hchronicle, ?_, fun future final rest ↦ ?_⟩
    · rw [lines, ← notices_told]
      exact hchronicle.enclosed
    · exact run.told_eq_nil assembled registered hreturned rest
  case enclosed =>
    intro earlier notice later hsplit hsends
    obtain ⟨rest, hchronicle⟩ := htold.completes
    have henclosed : Enclosed (lines index past ++ notices rest) := by
      rw [lines, ← notices_told, ← notices_append]
      exact hchronicle.enclosed
    exact henclosed.of_append hsplit hsends
  case stopping_once =>
    intro earlier signal later hsplit
    have hmem : .stopping signal ∈ lines index past := by simp [hsplit]
    refine ⟨(hlines.interrupted signal hmem).1, fun other hother ↦ ?_, fun hrunning ↦ ?_⟩
    · exact hfollows hsplit hother
    · exact hfollows hsplit hrunning
  case killing_once =>
    intro earlier later hsplit
    have hmem : .killing ∈ lines index past := by simp [hsplit]
    refine ⟨?_, fun hkilling ↦ hfollows hsplit hkilling, fun hrunning ↦ hfollows hsplit hrunning⟩
    have hstopping := hlines.warned_first hmem
    rw [hsplit, List.mem_append, List.mem_cons] at hstopping
    rcases hstopping with hearlier | hkilling | hlater
    · exact hearlier
    · cases hkilling
    · exact (hfollows hsplit hlater).elim

/-- A sleeper that exits, is restarted, told to stop and killed. -/
theorem lines_in_order_sleeper :
    ∃ past system,
      Execution (.ofSupervisor (.ofSpecs [.sleeper .terminate (.forever .zero)])) past system ∧
        lines 0 past = [.running, .exited (.exited 1), .restarting 1 .zero, .running,
          .stopping .terminate, .killing, .exited (.signalled 9)] ∧
        Chronicle (.sleeper .terminate (.forever .zero)) true (told (eventsOf 0 past)) ∧
          Enclosed (lines 0 past) := by
  have run := Trace.of_follow (show
    (System.ofSupervisor (.ofSpecs [.sleeper .terminate (.forever .zero)])).follow
      (Move.start 0 7 ++ Move.exit 0 (.exited 1) ++
        [.task 0 .settle, .task 0 .check, .task 0 .decide, .task 0 .wake] ++ Move.start 0 8 ++
          [.stop, .beginShutdown, .interrupt (.ok ()), .interrupted, .expire, .kill (.ok ())] ++
            Move.exit 0 (.signalled 9) ++ [.task 0 .settle, .task 0 .check]) = some (_, _) from rfl)
  have inOrder : LinesInOrder _ 0 _ _ := lines_in_order (Supervisor.assembled_ofSpecs _) run rfl
  obtain ⟨hchronicle, henclosed, _⟩ := inOrder.whole (.ok ()) rfl
  exact ⟨_, _, run, rfl, hchronicle, henclosed⟩

end Supervision
