import Supervision.Proofs.Restart.Budget
import Mathlib.Data.List.Chain

/-!
# The states of a process

The states that a process publishes make up a path through its life, from idle to terminal.  A run
that starts no child publishes nothing, and an idle process is not restarted: its first run starts a
child, fails for good, or found a stop that is found again when the run is through.
-/

namespace Supervision

/-- What may be published after what. -/
inductive ProcessState.Follows : ProcessState → ProcessState → Prop
  | started : Follows .idle .running
  | neverStarted : Follows .idle .terminal
  | exited : Follows .running .exited
  | restarting : Follows .exited .restarting
  | through : Follows .exited .terminal
  | restarted : Follows .restarting .running
  | retried : Follows .restarting .restarting
  | givenUp : Follows .restarting .terminal

def Event.state? : Event → Option ProcessState
  | .published state => some state
  | _ => none

def publications (events : List Event) : List ProcessState := events.filterMap Event.state?

@[simp]
theorem publications_nil : publications [] = [] := rfl

@[simp]
theorem publications_append (events more : List Event) :
    publications (events ++ more) = publications events ++ publications more := by
  simp [publications]

theorem mem_publications {state : ProcessState} {events : List Event} :
    state ∈ publications events ↔ .published state ∈ events := by
  constructor
  · intro h
    obtain ⟨event, hevent, hstate⟩ := List.mem_filterMap.mp h
    cases event <;> simp_all [Event.state?]
  · intro h
    exact List.mem_filterMap.mpr ⟨_, h, rfl⟩

/-- A move that keeps the state publishes nothing, and one that changes it publishes the new one. -/
inductive Publishes (before : ProcessState) : ProcessState → List Event → Prop
  | keeps {events : List Event} (silent : publications events = []) :
      Publishes before before events
  | goesOn {after : ProcessState} {events : List Event} (follows : before.Follows after)
      (once : publications events = [after]) : Publishes before after events

/-- A path goes on with what is published, and ends with the state then. -/
theorem Publishes.append {before after : ProcessState} {events : List Event}
    {states : List ProcessState} (h : Publishes before after events)
    (path : states.IsChain ProcessState.Follows) (last : states.getLast? = some before) :
    (states ++ publications events).IsChain ProcessState.Follows ∧
      (states ++ publications events).getLast? = some after := by
  cases h with
  | keeps silent =>
    rw [silent, List.append_nil]
    exact ⟨path, last⟩
  | goesOn follows once =>
    rw [once]
    refine ⟨path.append (.singleton _) ?_, List.getLast?_concat⟩
    rw [last]
    rintro _ ⟨⟩ _ ⟨⟩
    exact follows

/-- Terminal is published by the moves that lead there. -/
theorem Publishes.terminal_mem_iff {before after : ProcessState} {events : List Event}
    (h : Publishes before after events) :
    .published .terminal ∈ events ↔ before ≠ .terminal ∧ after = .terminal := by
  rw [← mem_publications]
  cases h with
  | keeps silent => simp [silent]
  | goesOn follows once =>
    have hstaying : before ≠ .terminal := by
      rintro rfl
      cases follows
    simp [once, hstaying, eq_comm]

/-- A process without a child can be left, with any last lines. -/
theorem publishes_terminal {state : ProcessState} (notices : List Notice)
    (childless : state ≠ .running) (staying : state ≠ .terminal) :
    Publishes state .terminal (notices.map .wrote ++ [.published .terminal]) := by
  have follows : state.Follows .terminal := by
    cases state with
    | idle => exact .neverStarted
    | running => exact absurd rfl childless
    | exited => exact .through
    | restarting => exact .givenUp
    | terminal => exact absurd rfl staying
  refine .goesOn follows ?_
  simp [publications, List.filterMap_map, Function.comp_def, Event.state?]

namespace Task

variable {stopping : Bool} {task : Task} {move : TaskMove} {step : TaskStep}
  {last : Option RunResult}

/-- The last run has failed, but not for good. -/
def FailedLast (last : Option RunResult) : Prop :=
  ∃ failure, last = some (.error failure) ∧ failure.isConfiguration = false

/-- The published state fits how far the loop has come.  A run that has started no child leaves the
state as it was, and then a stop was asked for or the run has failed. -/
def Stands (task : Task) (stopping : Bool) (last : Option RunResult) : Prop :=
  match task.phase with
  | .running (.waiting _) | .running (.reaped _) | .running (.cleared _) =>
    task.managed.state = .running
  | .running (.draining _) | .running (.reporting _) | .running (.returned (.ok (some _))) =>
    task.managed.state = .exited
  | .running (.returned (.ok none)) =>
    task.managed.state = .exited ∨
      stopping = true ∧ (task.managed.state = .idle ∨ task.managed.state = .restarting)
  | .running _ => task.managed.state = if task.started then .restarting else .idle
  | .checking => task.started = true ∧ (task.managed.state = .exited ∨
      stopping = true ∧ (task.managed.state = .idle ∨ task.managed.state = .restarting) ∨
        FailedLast last ∧ task.managed.state = .restarting)
  | .deciding => task.started = true ∧
      (task.managed.state = .exited ∨ FailedLast last ∧ task.managed.state = .restarting)
  | .delaying _ => task.started = true ∧ task.managed.state = .restarting
  | .returned _ => task.managed.state = .terminal

theorem stands_ofManaged {managed : Managed} (fresh : managed.Fresh) (stopping : Bool)
    (last : Option RunResult) : (ofManaged managed).Stands stopping last := by
  obtain ⟨spec, color, kind, rfl⟩ := fresh
  rfl

/-- A process shows the end state just when its loop has returned. -/
theorem Stands.terminal_iff (stands : task.Stands stopping last) :
    task.managed.state = .terminal ↔ ∃ result, task.phase = .returned result := by
  unfold Stands at stands
  split at stands <;> grind

/-- A stop that is asked for changes nothing of it. -/
theorem Stands.mono {asked : Bool} (stands : task.Stands stopping last)
    (h : stopping = true → asked = true) : task.Stands asked last := by
  unfold Stands at stands ⊢
  split at stands <;> grind

/-- Every move that publishes a state goes on by a step of the path. -/
theorem Moved.publishes (h : Moved stopping task move step) (stands : task.Stands stopping last) :
    Publishes task.managed.state step.task.managed.state step.events := by
  cases h with
  | read hread =>
    obtain ⟨readers, rfl⟩ := Managed.read_frame hread
    refine .keeps (List.filterMap_eq_nil_iff.mpr fun event hevent ↦ ?_)
    obtain ⟨_, rfl⟩ := Managed.copied_of_mem_read hread hevent
    rfl
  | run at_ h =>
    unfold Stands at stands
    rw [at_] at stands
    cases h with
    | announced pid =>
      have hstate : task.managed.state = if task.started then .restarting else .idle := stands
      refine .goesOn ?_ rfl
      rw [hstate]
      cases task.started with
      | false => exact .started
      | true => exact .restarted
    | published waited => exact .goesOn (stands ▸ .exited) rfl
    | waited pid waited => cases waited <;> exact .keeps rfl
    | _ => exact .keeps rfl
  | succeeded at_ | failedOnce at_ | unstopped at_ | woken at_ => exact .keeps rfl
  | retried at_ h =>
    unfold Stands at stands
    rw [at_] at stands
    refine .goesOn ?_ rfl
    rcases stands.2 with hexited | ⟨_, hrestarting⟩
    · exact hexited ▸ .restarting
    · exact hrestarting ▸ .retried
  | failed at_ | stopped at_ | done at_ | exhausted at_ | cancelled at_ =>
    unfold Stands at stands
    rw [at_] at stands
    refine publishes_terminal _ ?_ ?_ <;> grind

/-- What is published fits the loop after every move. -/
theorem Moved.stands (h : Moved stopping task move step) (stands : task.Stands stopping last) :
    step.task.Stands stopping ((results (task.beat? stopping move).toList).getLast?.or last) := by
  cases h with
  | read hread =>
    obtain ⟨readers, rfl⟩ := Managed.read_frame hread
    exact stands
  | run at_ h =>
    unfold Stands at stands
    rw [at_] at stands
    cases h <;> simp_all [Stands]
  | @succeeded status at_ =>
    unfold Stands at stands
    rw [at_] at stands
    refine ⟨rfl, ?_⟩
    cases status with
    | none => exact stands.imp_right .inl
    | some status => exact .inl stands
  | @failedOnce failure at_ mild =>
    unfold Stands at stands
    rw [at_] at stands
    have hfailed : FailedLast (some (.error failure)) := ⟨failure, rfl, mild.2⟩
    simp_all [Stands, beat?]
  | failed at_ | stopped at_ | unstopped at_ | done at_ | exhausted at_ | retried at_ | woken at_
  | cancelled at_ =>
    unfold Stands at stands
    rw [at_] at stands
    simp_all [Stands, leave, beat?]

/-- Only a decision says again that a process is restarting, after a run that has failed. -/
theorem Moved.failedLast (h : Moved stopping task move step) (stands : task.Stands stopping last)
    (restarting : task.managed.state = .restarting)
    (again : .published .restarting ∈ step.events) : FailedLast last := by
  cases h with
  | read hread =>
    obtain ⟨_, hcopied⟩ := Managed.copied_of_mem_read hread again
    cases hcopied
  | run at_ h =>
    cases h with
    | waited pid waited => cases waited <;> simp [Managed.endOfWait] at again
    | _ => simp at again
  | retried at_ h =>
    unfold Stands at stands
    rw [at_] at stands
    rcases stands.2 with hexited | ⟨hfailed, _⟩
    · rw [restarting] at hexited
      cases hexited
    · exact hfailed
  | _ => simp [leave] at again

end Task

theorem Managed.publications_signal (managed : Managed) (notice : Notice) (signal : Signal)
    (sent : Except Failure Unit) : publications (managed.signal notice signal sent) = [] := by
  unfold Managed.signal
  cases managed.pid with
  | none => rfl
  | some pid => cases sent <;> rfl

namespace Transition.Seen

variable {transition : Transition} {index : Nat} {task after : Task} {last : Option RunResult}

/-- A move publishes the state that it changes to, and nothing else. -/
theorem publishes (seen : transition.Seen index task after)
    (stands : task.Stands transition.before.stopping last) :
    Publishes task.managed.state after.managed.state (transition.eventsOf index) := by
  cases seen with
  | own made moved stopping uncalled events =>
    rw [events]
    exact moved.publishes stands
  | interrupted made called free events | killed made called free events =>
    rw [events]
    exact .keeps (task.managed.publications_signal _ _ _)
  | apart unmoved uncalled events =>
    rw [events]
    exact .keeps rfl

/-- A process that is restarting says so again only after a run that failed. -/
theorem failedLast (seen : transition.Seen index task after)
    (stands : task.Stands transition.before.stopping last)
    (restarting : task.managed.state = .restarting)
    (again : .published .restarting ∈ transition.eventsOf index) : Task.FailedLast last := by
  cases seen with
  | own made moved stopping uncalled events =>
    rw [events] at again
    exact moved.failedLast stands restarting again
  | interrupted made called free events | killed made called free events =>
    have hnone := task.managed.publications_signal
    rw [events, ← mem_publications] at again
    simp [Managed.interrupt, Managed.kill, hnone] at again
  | apart unmoved uncalled events =>
    rw [events] at again
    cases again

theorem stands (seen : transition.Seen index task after)
    (made : transition.before.advance transition.move = some transition.step)
    (present : transition.before.tasks[index]? = some task)
    (stands : task.Stands transition.before.stopping last) :
    after.Stands transition.step.system.stopping
      ((results (transition.beat? index).toList).getLast?.or last) := by
  refine Task.Stands.mono ?_ (System.moved_of_advance made).stopping
  rcases seen.loop present with ⟨move, step, moved, rfl, hbeat, _⟩ | ⟨rfl, hbeat, _⟩
  · rw [hbeat]
    exact moved.stands stands
  · rw [hbeat]
    exact stands

end Transition.Seen

/-- The states of a process from its registration on. -/
def statesOf (index : Nat) (past : List Transition) : List ProcessState :=
  .idle :: publications (eventsOf index past)

def System.state? (system : System) (index : Nat) : Option ProcessState :=
  system.tasks[index]?.map fun task ↦ task.managed.state

/-- The states so far make up a path, and the last of them is the state that shows. -/
structure PathSound (index : Nat) (past : List Transition) (system : System) (task : Task) :
    Prop where
  stands : task.Stands system.stopping (results (beats index past)).getLast?
  path : (statesOf index past).IsChain ProcessState.Follows
  last : (statesOf index past).getLast? = some task.managed.state

/-- One move goes on with the path by the state that it publishes, if it does. -/
theorem PathSound.advance {index : Nat} {past : List Transition} {transition : Transition}
    {task after : Task} (sound : PathSound index past transition.before task)
    (made : transition.before.advance transition.move = some transition.step)
    (present : transition.before.tasks[index]? = some task)
    (seen : transition.Seen index task after) :
    PathSound index (past ++ [transition]) transition.step.system after := by
  have hstates : statesOf index (past ++ [transition]) =
      statesOf index past ++ publications (transition.eventsOf index) := by
    simp [statesOf]
  obtain ⟨hpath, hlast⟩ := (seen.publishes sound.stands).append sound.path sound.last
  refine ⟨?_, hstates ▸ hpath, hstates ▸ hlast⟩
  rw [beats_append, beats_singleton, results_append, List.getLast?_append]
  exact seen.stands made present sound.stands

section

variable {supervisor : Supervisor} {past : List Transition} {system : System} {index : Nat}
  {managed : Managed} (assembled : supervisor.Assembled)
  (run : Execution (.ofSupervisor supervisor) past system)
  (registered : supervisor.processes[index]? = some managed)

include assembled run registered

theorem Execution.pathSound :
    ∃ task, system.tasks[index]? = some task ∧ PathSound index past system task := by
  have hfresh : managed.Fresh := assembled.fresh managed (List.mem_of_getElem? registered)
  refine run.process_induction (motive := PathSound index)
    (System.tasks_ofSupervisor registered) ?_ ?_
  · refine ⟨Task.stands_ofManaged hfresh _ _, .singleton _, ?_⟩
    obtain ⟨spec, color, kind, rfl⟩ := hfresh
    rfl
  · intro past transition task after _ made present seen sound
    exact sound.advance made present seen

/-- The state that shows is the last one that was published. -/
theorem Execution.state?_eq_getLast? :
    system.state? index = (statesOf index past).getLast? := by
  obtain ⟨task, present, sound⟩ := run.pathSound assembled registered
  rw [System.state?, present, sound.last, Option.map_some]

theorem Execution.state?_eq_terminal_iff :
    system.state? index = some .terminal ↔
      ∃ result, system.phase? index = some (.returned result) := by
  obtain ⟨task, present, sound⟩ := run.pathSound assembled registered
  simp [System.state?, System.phase?, present, sound.stands.terminal_iff]

/-- No state follows terminal. -/
theorem Execution.publications_eq_nil {future : List Transition} {final : System}
    (terminal : system.state? index = some .terminal) (rest : Execution system future final) :
    publications (eventsOf index future) = [] := by
  have hlast : (statesOf index past).getLast? = some .terminal :=
    (run.state?_eq_getLast? assembled registered).symm.trans terminal
  obtain ⟨_, _, sound⟩ := Execution.pathSound assembled (run.trans rest) registered
  have hstates : statesOf index (past ++ future) =
      statesOf index past ++ publications (eventsOf index future) := by
    simp [statesOf]
  have hpath := hstates ▸ sound.path
  cases hfuture : publications (eventsOf index future) with
  | nil => rfl
  | cons state states =>
    rw [hfuture] at hpath
    have hfollows : ProcessState.Follows .terminal state :=
      (List.isChain_append.mp hpath).2.2 .terminal hlast state rfl
    cases hfollows

end

/-- How the states of a process go on in every execution. -/
structure StatesInOrder (index : Nat) (past : List Transition) (system : System) : Prop where
  /-- From idle on, every state that is published follows the one before it. -/
  path : (statesOf index past).IsChain ProcessState.Follows
  /-- The state that shows is the one that was published last. -/
  shown : system.state? index = (statesOf index past).getLast?
  /-- A process that is restarting is said to be restarting again only when the run in between has
  failed, and not for good. -/
  retried : ∀ earlier transition later, past = earlier ++ transition :: later →
    transition.before.state? index = some .restarting →
      .published .restarting ∈ transition.eventsOf index →
        Task.FailedLast (results (beats index earlier)).getLast?
  /-- A process is terminal exactly when its loop has returned. -/
  terminal_iff : system.state? index = some .terminal ↔
    ∃ result, system.phase? index = some (.returned result)
  /-- The state is published in the very move in which the loop returns. -/
  reached : ∀ transition ∈ past, .published .terminal ∈ transition.eventsOf index ↔
    (∀ result, transition.before.phase? index ≠ some (.returned result)) ∧
      ∃ result, transition.step.system.phase? index = some (.returned result)
  /-- Nothing is published after it. -/
  kept : system.state? index = some .terminal → ∀ future final, Execution system future final →
    final.state? index = some .terminal ∧ publications (eventsOf index future) = []

/-- The states of every process go on as they should, whatever is done. -/
theorem states_in_order {supervisor : Supervisor} {past : List Transition} {system : System}
    {index : Nat} {managed : Managed} (assembled : supervisor.Assembled)
    (run : Execution (.ofSupervisor supervisor) past system)
    (registered : supervisor.processes[index]? = some managed) :
    StatesInOrder index past system := by
  obtain ⟨_, _, sound⟩ := run.pathSound assembled registered
  constructor
  case path => exact sound.path
  case shown => exact run.state?_eq_getLast? assembled registered
  case retried =>
    rintro earlier transition later rfl restarting again
    obtain ⟨before, made, _⟩ := run.split
    obtain ⟨task, present, sound⟩ := Execution.pathSound assembled before registered
    obtain ⟨after, _, seen⟩ := Transition.seen made present
    have hstate : task.managed.state = .restarting := by
      simpa [System.state?, present] using restarting
    exact seen.failedLast sound.stands hstate again
  case terminal_iff => exact run.state?_eq_terminal_iff assembled registered
  case reached =>
    intro transition htransition
    obtain ⟨earlier, later, rfl, before, made, _⟩ := run.split_of_mem htransition
    obtain ⟨task, present, sound⟩ := Execution.pathSound assembled before registered
    obtain ⟨after, hafter, seen⟩ := Transition.seen made present
    have hbefore := Execution.state?_eq_terminal_iff assembled before registered
    have hthen := Execution.state?_eq_terminal_iff assembled (before.tail _ made) registered
    rw [(seen.publishes sound.stands).terminal_mem_iff, ← hthen, ← not_exists, ← hbefore]
    simp [System.state?, present, hafter]
  case kept =>
    intro terminal future final rest
    have hnone := run.publications_eq_nil assembled registered terminal rest
    refine ⟨?_, hnone⟩
    rw [Execution.state?_eq_getLast? assembled (run.trans rest) registered, ← terminal,
      run.state?_eq_getLast? assembled registered]
    simp [statesOf, hnone]

/-- A process that exits, cannot be started again and is stopped in the delay after that. -/
theorem states_in_order_sleeper :
    ∃ past system,
      Execution (.ofSupervisor (.ofSpecs [.sleeper .terminate (.forever .zero)])) past system ∧
        statesOf 0 past = [.idle, .running, .exited, .restarting, .restarting, .terminal] ∧
          (statesOf 0 past).IsChain ProcessState.Follows := by
  let decisions : List Move := [.task 0 .settle, .task 0 .check, .task 0 .decide]
  have run := Trace.of_follow (show
    (System.ofSupervisor (.ofSpecs [.sleeper .terminate (.forever .zero)])).follow
      (Move.start 0 7 ++ Move.exit 0 (.exited 1) ++ decisions ++
        [.task 0 .wake, .task 0 (.run (.openChannel (.ok ()))), .task 0 (.run .lock),
          .task 0 (.run (.check (.ok ()))), .task 0 (.run (.launch (.error (.spawnFailed "no"))))] ++
            decisions ++ [.stop, .task 0 .cancel]) = some (_, _) from rfl)
  exact ⟨_, _, run, rfl, (states_in_order (Supervisor.assembled_ofSpecs _) run rfl).path⟩

end Supervision
