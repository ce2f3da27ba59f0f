import Supervision.Proofs.Process.Lifecycle
import Supervision.Proofs.System.Moves
import Supervision.Proofs.Traces

/-!
# Executions

An execution makes one move after another, each on the system that the move before has left.  Seen
from one process, a transition is a move of its own task, a call of the shutdown, or nothing.
-/

namespace Supervision

/-- A move of the whole as it was made. -/
abbrev Transition := MadeMove System Move SystemStep

/-- The system is reached from the start by these transitions. -/
abbrev Execution (start : System) : List Transition → System → Prop :=
  Trace System.advance SystemStep.system start

abbrev System.follow (system : System) : List Move → Option (List Transition × System) :=
  Trace.follow System.advance SystemStep.system system

/-! ## What happened to one process -/

/-- How far the loop of a process has come. -/
def System.phase? (system : System) (index : Nat) : Option TaskPhase :=
  system.tasks[index]?.map Task.phase

/-- The event of an occurrence, if it is one of this process. -/
def Occurrence.eventOf? (index : Nat) : Occurrence → Option Event
  | .process other event => if other = index then some event else none
  | .logged _ => none

def Transition.eventsOf (transition : Transition) (index : Nat) : List Event :=
  transition.step.occurrences.filterMap (Occurrence.eventOf? index)

/-- What happened to one process in an execution. -/
def eventsOf (index : Nat) (past : List Transition) : List Event :=
  past.flatMap fun transition ↦ transition.eventsOf index

@[simp]
theorem eventsOf_nil (index : Nat) : eventsOf index [] = [] := rfl

@[simp]
theorem eventsOf_append (index : Nat) (past future : List Transition) :
    eventsOf index (past ++ future) = eventsOf index past ++ eventsOf index future := by
  simp [eventsOf]

@[simp]
theorem eventsOf_singleton (index : Nat) (transition : Transition) :
    eventsOf index [transition] = transition.eventsOf index := by
  simp [eventsOf]

theorem filterMap_ofProcess_self (index : Nat) (events : List Event) :
    (System.ofProcess index events).filterMap (Occurrence.eventOf? index) = events := by
  simp [System.ofProcess, List.filterMap_map, Function.comp_def, Occurrence.eventOf?]

theorem filterMap_ofProcess_of_ne {index other : Nat} (h : other ≠ index) (events : List Event) :
    (System.ofProcess other events).filterMap (Occurrence.eventOf? index) = [] := by
  simp [System.ofProcess, List.filterMap_map, Function.comp_def, Occurrence.eventOf?, h]

/-- A call that the shutdown makes on one process. -/
inductive ShutdownCall
  | interrupt (index : Nat)
  | kill (index : Nat)
  deriving DecidableEq, Repr

/-- The call that is made in a move, if one is. -/
def Transition.call? (transition : Transition) : Option ShutdownCall :=
  match transition.move, transition.before.shutdown with
  | .interrupt _, .interrupting index => some (.interrupt index)
  | .kill _, .killing index => some (.kill index)
  | _, _ => none

def calls (past : List Transition) : List ShutdownCall := past.filterMap Transition.call?

@[simp]
theorem calls_append (past future : List Transition) :
    calls (past ++ future) = calls past ++ calls future := by
  simp [calls]

theorem calls_singleton (transition : Transition) :
    calls [transition] = transition.call?.toList := by
  cases h : transition.call? <;> simp [calls, h]

/-- A transition as one process sees it, whose task is given before and after: a move of that task,
a call of the shutdown on it, or something that is none of its business. -/
inductive Transition.Seen (transition : Transition) (index : Nat) (task : Task) : Task → Prop
  | own {move : TaskMove} {step : TaskStep} (made : transition.move = .task index move)
      (moved : Task.Moved transition.before.stopping task move step)
      (stopping : transition.step.system.stopping = transition.before.stopping)
      (uncalled : transition.call? = none) (events : transition.eventsOf index = step.events) :
      transition.Seen index task step.task
  | interrupted {sent : Except Failure Unit} (made : transition.move = .interrupt sent)
      (called : transition.call? = some (.interrupt index)) (free : task.holdsLock = false)
      (events : transition.eventsOf index = task.managed.interrupt sent) :
      transition.Seen index task task
  | killed {sent : Except Failure Unit} (made : transition.move = .kill sent)
      (called : transition.call? = some (.kill index)) (free : task.holdsLock = false)
      (events : transition.eventsOf index = task.managed.kill sent) :
      transition.Seen index task task
  | apart (unmoved : ∀ move, transition.move ≠ .task index move)
      (uncalled : transition.call? ≠ some (.interrupt index) ∧
        transition.call? ≠ some (.kill index))
      (events : transition.eventsOf index = []) : transition.Seen index task task

/-- A process sees every move in one of these ways. -/
theorem Transition.seen {transition : Transition} {index : Nat} {task : Task}
    (made : transition.before.advance transition.move = some transition.step)
    (present : transition.before.tasks[index]? = some task) :
    ∃ after, transition.step.system.tasks[index]? = some after ∧
      transition.Seen index task after := by
  obtain ⟨system, move, step⟩ := transition
  have hmoved : system.Moved move step := System.moved_of_advance made
  cases hmoved with
  | @task other otherTask taskMove taskStep hother moved =>
    by_cases h : other = index
    · subst h
      obtain rfl : otherTask = task := Option.some.inj (hother.symm.trans present)
      obtain ⟨hlt, _⟩ := List.getElem?_eq_some_iff.mp present
      refine ⟨taskStep.task, List.getElem?_set_self hlt, .own rfl moved rfl (by simp [call?]) ?_⟩
      exact filterMap_ofProcess_self other taskStep.events
    · refine ⟨task, (List.getElem?_set_ne h).trans present, .apart ?_ (by simp [call?]) ?_⟩
      · intro anyMove hany
        cases hany
        exact h rfl
      · exact filterMap_ofProcess_of_ne h taskStep.events
  | @interrupted other otherTask sent at_ hother free =>
    refine ⟨task, present, ?_⟩
    by_cases h : other = index
    · subst h
      obtain rfl : otherTask = task := Option.some.inj (hother.symm.trans present)
      exact .interrupted rfl (by simp [call?, at_]) free (filterMap_ofProcess_self other _)
    · exact .apart (by simp) (by simp [call?, at_, h]) (filterMap_ofProcess_of_ne h _)
  | @killed other otherTask sent at_ hother free =>
    refine ⟨task, present, ?_⟩
    by_cases h : other = index
    · subst h
      obtain rfl : otherTask = task := Option.some.inj (hother.symm.trans present)
      exact .killed rfl (by simp [call?, at_]) free (filterMap_ofProcess_self other _)
    · exact .apart (by simp) (by simp [call?, at_, h]) (filterMap_ofProcess_of_ne h _)
  | _ => exact ⟨task, present, .apart (by simp) (by simp [call?]) rfl⟩

/-- What holds of a process at the start and is kept by every transition, as the process sees it,
holds of it throughout. -/
theorem Execution.process_induction {start system : System} {past : List Transition} {index : Nat}
    {task : Task} {motive : List Transition → System → Task → Prop}
    (run : Execution start past system) (present : start.tasks[index]? = some task)
    (refl : motive [] start task)
    (tail : ∀ {past : List Transition} {transition : Transition} {task after : Task},
      Execution start past transition.before →
      transition.before.advance transition.move = some transition.step →
      transition.before.tasks[index]? = some task → transition.Seen index task after →
      motive past transition.before task →
      motive (past ++ [transition]) transition.step.system after) :
    ∃ task, system.tasks[index]? = some task ∧ motive past system task := by
  induction run with
  | refl => exact ⟨task, present, refl⟩
  | @tail past system run move step made ih =>
    obtain ⟨task, hpresent, hmotive⟩ := ih
    have hmade : (⟨system, move, step⟩ : Transition).before.advance move = some step := made
    obtain ⟨after, hafter, hseen⟩ := Transition.seen hmade hpresent
    exact ⟨after, hafter, tail run made hpresent hseen hmotive⟩

namespace Transition.Seen

variable {transition : Transition} {index : Nat} {task after : Task}

/-- Whatever a process sees of a move, it stays sound. -/
theorem sound (seen : transition.Seen index task after) (sound : task.Sound) : after.Sound := by
  cases seen with
  | own made moved stopping uncalled events => exact moved.sound sound
  | _ => exact sound

theorem spec (seen : transition.Seen index task after) :
    after.managed.spec = task.managed.spec := by
  cases seen with
  | own made moved stopping uncalled events => exact moved.spec
  | _ => rfl

end Transition.Seen

theorem System.tasks_ofSupervisor {supervisor : Supervisor} {index : Nat} {managed : Managed}
    (registered : supervisor.processes[index]? = some managed) :
    (System.ofSupervisor supervisor).tasks[index]? = some (.ofManaged managed) := by
  simp [ofSupervisor, registered]

/-- What is recorded of a process fits its loop at all times, and its description stays. -/
theorem Execution.sound {supervisor : Supervisor} {past : List Transition} {system : System}
    {index : Nat} {managed : Managed} (assembled : supervisor.Assembled)
    (run : Execution (.ofSupervisor supervisor) past system)
    (registered : supervisor.processes[index]? = some managed) :
    ∃ task, system.tasks[index]? = some task ∧
      task.Sound ∧ task.managed.spec = managed.spec := by
  have hfresh : managed.Fresh := assembled.fresh managed (List.mem_of_getElem? registered)
  refine run.process_induction
    (motive := fun _ _ task ↦ task.Sound ∧ task.managed.spec = managed.spec)
    (System.tasks_ofSupervisor registered) ⟨Task.sound_ofManaged hfresh, rfl⟩ ?_
  intro _ transition task after _ _ _ seen ⟨hsound, hspec⟩
  exact ⟨seen.sound hsound, seen.spec.trans hspec⟩

/-- Every process stays sound and keeps its description. -/
theorem Execution.sound_at {supervisor : Supervisor} {past : List Transition} {system : System}
    {index : Nat} {managed : Managed} {task : Task} (assembled : supervisor.Assembled)
    (run : Execution (.ofSupervisor supervisor) past system)
    (registered : supervisor.processes[index]? = some managed)
    (present : system.tasks[index]? = some task) :
    task.Sound ∧ task.managed.spec = managed.spec := by
  obtain ⟨_, hpresent, hsound⟩ := run.sound assembled registered
  obtain rfl := Option.some.inj (present.symm.trans hpresent)
  exact hsound

/-! ## A sample -/

/-- A process that sleeps for a minute. -/
def ProcessSpec.sleeper (stopSignal : Signal) (restart : RestartPolicy) : ProcessSpec :=
  ⟨"sleeper", ⟨"sleep", ["60"], .empty, none⟩, stopSignal, restart⟩

/-- The moves of a run from its beginning until its child is waited for. -/
def Move.start (index : Nat) (pid : UInt32) : List Move :=
  [.openChannel (.ok ()), .lock, .check (.ok ()), .launch (.ok pid), .announce].map
    fun move ↦ .task index (.run move)

/-- The moves of a run from the exit of its child until it returns. -/
def Move.exit (index : Nat) (status : ExitStatus) : List Move :=
  [.reap (.ok status), .clear, .publish, .drainExpired, .report].map
    fun move ↦ .task index (.run move)

end Supervision
