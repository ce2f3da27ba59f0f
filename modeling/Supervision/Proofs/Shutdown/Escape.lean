import Supervision.Proofs.Shutdown.Signals

/-!
# No child escapes a shutdown

The look at the stop and the record of the child stand under one lock, and the shutdown interrupts
under the same lock after a stop was asked for.  So a process that has been interrupted is not about
to start a child, and never will be again; and a child that it has by then was sent its stop signal.
-/

namespace Supervision

/-- No child of the process is started from here on, whatever is done. -/
def System.NeverSpawns (system : System) (index : Nat) : Prop :=
  ∀ future final, Execution system future final → ∀ pid, .spawned pid ∉ eventsOf index future

theorem Managed.not_spawned_of_signal {managed : Managed} {notice : Notice} {signal : Signal}
    {sent : Except Failure Unit} {pid : UInt32} :
    .spawned pid ∉ managed.signal notice signal sent := by
  unfold Managed.signal
  cases managed.pid with
  | none => exact List.not_mem_nil
  | some number => cases sent <;> simp

namespace Transition.Seen

variable {transition : Transition} {index : Nat} {task after : Task} {pid : UInt32}

/-- A child is started by its own process, in a move in which nothing else happens. -/
theorem eventsOf_eq_of_spawned (seen : transition.Seen index task after)
    (h : .spawned pid ∈ transition.eventsOf index) :
    ¬task.Quiet ∧ transition.call? = none ∧ after.child? = some pid ∧
      transition.eventsOf index = [.spawned pid] := by
  cases seen with
  | own made moved stopping uncalled events =>
    rw [events] at h ⊢
    obtain ⟨hnotQuiet, _, hchild, hevents⟩ := moved.events_eq_of_spawned h
    exact ⟨hnotQuiet, uncalled, hchild, hevents⟩
  | interrupted made called free events | killed made called free events =>
    rw [events] at h
    exact absurd h Managed.not_spawned_of_signal
  | apart unmoved uncalled events =>
    rw [events] at h
    exact absurd h List.not_mem_nil

/-- A quiet process has no child put on record. -/
theorem pid_eq_none (seen : transition.Seen index task after) (quiet : task.Quiet)
    (unrecorded : task.managed.pid = none) : after.managed.pid = none := by
  cases seen with
  | own made moved stopping uncalled events => exact moved.pid_eq_none quiet unrecorded
  | _ => exact unrecorded

/-- After a stop was asked for a quiet process stays so. -/
theorem quiet (seen : transition.Seen index task after)
    (asked : transition.before.stopping = true) (quiet : task.Quiet) : after.Quiet := by
  cases seen with
  | own made moved stopping uncalled events =>
    rw [asked] at moved
    exact moved.quiet quiet
  | _ => exact quiet

end Transition.Seen

/-- After a stop was asked for, a process that is not about to start a child stays so. -/
theorem Execution.quiet {start final : System} {future : List Transition} {index : Nat}
    {task : Task} (run : Execution start future final) (asked : start.stopping = true)
    (present : start.tasks[index]? = some task) (quiet : task.Quiet) :
    ∃ task, final.tasks[index]? = some task ∧
      task.Quiet ∧ ∀ pid, .spawned pid ∉ eventsOf index future := by
  refine run.process_induction
    (motive := fun future _ task ↦ task.Quiet ∧ ∀ pid, .spawned pid ∉ eventsOf index future)
    present ⟨quiet, by simp⟩ ?_
  intro past transition task after before made _ seen ⟨hquiet, hnone⟩
  refine ⟨seen.quiet (before.stopping asked) hquiet, fun pid hspawned ↦ ?_⟩
  simp only [eventsOf_append, eventsOf_singleton, List.mem_append] at hspawned
  rcases hspawned with hpast | hnow
  · exact hnone pid hpast
  · exact (seen.eventsOf_eq_of_spawned hnow).1 hquiet

/-- A process that is quiet when a stop was asked for starts no child any more. -/
theorem System.neverSpawns_of_quiet {system : System} {index : Nat} {task : Task}
    (asked : system.stopping = true) (present : system.tasks[index]? = some task)
    (quiet : task.Quiet) : system.NeverSpawns index := by
  intro future final run
  obtain ⟨_, _, _, hnone⟩ := run.quiet asked present quiet
  exact hnone

/-- Once interrupted, a process is not about to start a child. -/
theorem Execution.quiet_of_interrupted {supervisor : Supervisor} {past : List Transition}
    {system : System} {index : Nat} (run : Execution (.ofSupervisor supervisor) past system)
    (interrupted : .interrupt index ∈ calls past) :
    ∃ task, system.tasks[index]? = some task ∧ task.Quiet := by
  obtain ⟨transition, htransition, called⟩ := List.mem_filterMap.mp interrupted
  obtain ⟨earlier, later, _, before, made, rest⟩ := run.split_of_mem htransition
  obtain ⟨task, present, free, unchanged, _⟩ := Transition.signals_of_call made called
  have hcalled : .interrupt index ∈ calls (earlier ++ [transition]) := by
    simp [calls_singleton, called]
  have hasked : transition.step.system.stopping = true :=
    Execution.stopping_of_call (before.tail _ made) hcalled
  have hpresent : transition.step.system.tasks[index]? = some task := by
    rw [unchanged]
    exact present
  obtain ⟨task, hfinal, hquiet, _⟩ :=
    Execution.quiet rest hasked hpresent (Task.quiet_of_not_holdsLock free)
  exact ⟨task, hfinal, hquiet⟩

/-- The shutdown interrupts a process only while its lock is free, when it is not about to start a
child. -/
theorem Execution.quiet_at {supervisor : Supervisor} {past : List Transition} {system : System}
    {index : Nat} {task : Task} (run : Execution (.ofSupervisor supervisor) past system)
    (interrupted : .interrupt index ∈ calls past) (present : system.tasks[index]? = some task) :
    task.Quiet := by
  obtain ⟨_, hpresent, hquiet⟩ := run.quiet_of_interrupted interrupted
  obtain rfl := Option.some.inj (present.symm.trans hpresent)
  exact hquiet

/-- Every child was waited for to the end, or is the child that the loop has now; and that one was
sent the stop signal if the process has been interrupted. -/
def ChildrenSound (index : Nat) (past : List Transition) (task : Task) : Prop :=
  ∀ earlier pid later, eventsOf index past = earlier ++ .spawned pid :: later →
    .reaped pid ∈ later ∨ .lost pid ∈ later ∨
      task.child? = some pid ∧
        (.interrupt index ∈ calls past → .signalled pid task.managed.spec.stopSignal ∈ later)

/-- A start of a child in a longer history was there before, or is new. -/
theorem split_of_append_eq {α : Type} {past new earlier later : List α} {start : α}
    (h : past ++ new = earlier ++ start :: later) :
    (∃ rest, past = earlier ++ start :: rest ∧ later = rest ++ new) ∨
      ∃ front, new = front ++ start :: later := by
  rcases List.append_eq_append_iff.mp h with ⟨front, _, hnew⟩ | ⟨rest, hpast, hrest⟩
  · exact .inr ⟨front, hnew⟩
  · cases rest with
    | nil => exact .inr ⟨[], hrest.symm⟩
    | cons first rest =>
      obtain ⟨rfl, hlater⟩ := List.cons.inj hrest
      exact .inl ⟨rest, hpast, hlater⟩

theorem Managed.signalled_mem_signal {managed : Managed} {notice : Notice} {signal : Signal}
    {sent : Except Failure Unit} {pid : UInt32} (recorded : managed.pid = some pid) :
    .signalled pid signal ∈ managed.signal notice signal sent := by
  unfold Managed.signal
  rw [recorded]
  simp

/-- One move keeps every child accounted for.  A process that was interrupted would not have started
one, so a child that is started now need not have been signalled. -/
theorem ChildrenSound.advance {index : Nat} {past : List Transition} {transition : Transition}
    {task after : Task} (children : ChildrenSound index past task) (sound : task.Sound)
    (quiet : .interrupt index ∈ calls past → task.Quiet)
    (seen : transition.Seen index task after) :
    ChildrenSound index (past ++ [transition]) after := by
  intro earlier pid later hsplit
  rw [eventsOf_append, eventsOf_singleton] at hsplit
  rcases split_of_append_eq hsplit with ⟨rest, hpast, rfl⟩ | ⟨front, hnew⟩
  · rcases children earlier pid rest hpast with hreaped | hlost | ⟨hchild, hsignalled⟩
    · exact .inl (List.mem_append_left _ hreaped)
    · exact .inr (.inl (List.mem_append_left _ hlost))
    · cases seen with
      | own made moved stopping uncalled events =>
        rw [events]
        rcases moved.child_or_end hchild with hchild | hreaped | hlost
        · refine .inr (.inr ⟨hchild, fun hcalled ↦ List.mem_append_left _ ?_⟩)
          rw [moved.spec]
          exact hsignalled (by simpa [calls_singleton, uncalled] using hcalled)
        · exact .inl (List.mem_append_right _ hreaped)
        · exact .inr (.inl (List.mem_append_right _ hlost))
      | interrupted made called free events =>
        refine .inr (.inr ⟨hchild, fun _ ↦ List.mem_append_right _ ?_⟩)
        rw [events]
        exact Managed.signalled_mem_signal (sound.pid_of_child hchild)
      | killed made called free events =>
        refine .inr (.inr ⟨hchild, fun hcalled ↦ List.mem_append_left _ ?_⟩)
        exact hsignalled (by simpa [calls_singleton, called] using hcalled)
      | apart unmoved uncalled events =>
        refine .inr (.inr ⟨hchild, fun hcalled ↦ List.mem_append_left _ (hsignalled ?_)⟩)
        simpa [calls_singleton, uncalled.1] using hcalled
  · have hspawned : .spawned pid ∈ transition.eventsOf index := by simp [hnew]
    obtain ⟨hnotQuiet, uncalled, hchild, _⟩ := seen.eventsOf_eq_of_spawned hspawned
    refine .inr (.inr ⟨hchild, fun hcalled ↦ absurd (quiet ?_) hnotQuiet⟩)
    simpa [calls_singleton, uncalled] using hcalled

section

variable {supervisor : Supervisor} {past : List Transition} {system : System} {index : Nat}
  {managed : Managed} (assembled : supervisor.Assembled)
  (run : Execution (.ofSupervisor supervisor) past system)
  (registered : supervisor.processes[index]? = some managed)

include assembled run registered

theorem Execution.childrenSound :
    ∃ task, system.tasks[index]? = some task ∧ task.Sound ∧
      task.managed.spec = managed.spec ∧ ChildrenSound index past task := by
  have hfresh : managed.Fresh := assembled.fresh managed (List.mem_of_getElem? registered)
  refine run.process_induction
    (motive := fun past _ task ↦
      task.Sound ∧ task.managed.spec = managed.spec ∧ ChildrenSound index past task)
    (System.tasks_ofSupervisor registered) ⟨Task.sound_ofManaged hfresh, rfl, ?_⟩ ?_
  · intro earlier pid later hsplit
    simp at hsplit
  · intro past transition task after before made present seen ⟨hsound, hspec, hchildren⟩
    have hquiet (interrupted : .interrupt index ∈ calls past) : task.Quiet :=
      before.quiet_at interrupted present
    exact ⟨seen.sound hsound, seen.spec.trans hspec, hchildren.advance hsound hquiet seen⟩

/-- An interrupt sends the stop signal to the recorded child, and none is started after it. -/
theorem Execution.interrupt_outcome {sent : Except Failure Unit} {step : SystemStep}
    (at_ : system.shutdown = .interrupting index)
    (made : system.advance (.interrupt sent) = some step) :
    step.system.NeverSpawns index ∧
      signalsIn step.occurrences =
        (system.pid? index).toList.map fun pid ↦ (index, pid, managed.spec.stopSignal) := by
  let transition : Transition := ⟨system, .interrupt sent, step⟩
  have hcalled : transition.call? = some (.interrupt index) := by
    simp [transition, Transition.call?, at_]
  refine ⟨?_, run.signals_of_call assembled made hcalled registered⟩
  obtain ⟨task, present, free, unchanged, _⟩ := Transition.signals_of_call made hcalled
  have hasked : step.system.stopping = true := by
    have hcalls : .interrupt index ∈ calls (past ++ [transition]) := by
      simp [calls_singleton, hcalled]
    exact Execution.stopping_of_call (run.tail _ made) hcalls
  exact System.neverSpawns_of_quiet hasked (unchanged ▸ present)
    (Task.quiet_of_not_holdsLock free)

/-- No child escapes a shutdown.  A run that looks at the stop after it was asked for starts none;
an interrupted process is never started again, and its recorded child is sent the stop signal; so
every child of an interrupted process has been sent it unless the wait for the child is over. -/
theorem no_child_escapes :
    (∀ task, system.tasks[index]? = some task → task.phase = .running .checking →
      system.stopping = true → system.NeverSpawns index) ∧
    (∀ sent step, system.shutdown = .interrupting index →
      system.advance (.interrupt sent) = some step →
        step.system.NeverSpawns index ∧
          signalsIn step.occurrences =
            (system.pid? index).toList.map fun pid ↦ (index, pid, managed.spec.stopSignal)) ∧
    (.interrupt index ∈ calls past → ∀ earlier pid later,
      eventsOf index past = earlier ++ .spawned pid :: later →
        .signalled pid managed.spec.stopSignal ∈ later ∨ .reaped pid ∈ later ∨
          .lost pid ∈ later) := by
  refine ⟨?_, ?_, ?_⟩
  · intro task present at_ asked
    refine System.neverSpawns_of_quiet asked present ?_
    unfold Task.Quiet
    rw [at_]
    trivial
  · intro sent step at_ made
    exact run.interrupt_outcome assembled registered at_ made
  · intro interrupted earlier pid later hsplit
    obtain ⟨task, _, _, hspec, children⟩ := run.childrenSound assembled registered
    rcases children earlier pid later hsplit with hreaped | hlost | ⟨_, hsignalled⟩
    · exact .inr (.inl hreaped)
    · exact .inr (.inr hlost)
    · exact .inl (hspec ▸ hsignalled interrupted)

end

/-- The sleeper has started its child when it is interrupted. -/
theorem no_child_escapes_sleeper :
    ∃ past system later,
      Execution (.ofSupervisor (.ofSpecs [.sleeper .terminate .never])) past system ∧
        .interrupt 0 ∈ calls past ∧
          eventsOf 0 past = [.wrote .running] ++ .spawned 7 :: later ∧
            (.signalled 7 .terminate ∈ later ∨ .reaped 7 ∈ later ∨ .lost 7 ∈ later) := by
  have run := Trace.of_follow (show
    (System.ofSupervisor (.ofSpecs [.sleeper .terminate .never])).follow
      (Move.start 0 7 ++ [.stop, .beginShutdown, .interrupt (.ok ())]) = some (_, _) from rfl)
  refine ⟨_, _, _, run, ?interrupted, rfl, ?_⟩
  case interrupted => exact List.mem_singleton_self _
  exact (no_child_escapes (Supervisor.assembled_ofSpecs _) run rfl).2.2
    (List.mem_singleton_self _) [.wrote .running] 7 _ rfl

end Supervision
