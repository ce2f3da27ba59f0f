import Supervision.Proofs.Restart.Budget

/-!
# Status snapshots

What the status of a process shows whenever its task waits for something: a number exactly while the
state is "running", and as many restarts as the tracker has counted, which never get fewer.  The
runs that have begun are as many as the restarts and one, unless the next run is still to come.
-/

namespace Supervision

/-! ## Counted restarts -/

namespace RestartTracker

variable {tracker : RestartTracker}

/-- The restart that is decided on is the next one, and it is counted. -/
theorem next_of_retry {attempt : UInt32} {delay : Span}
    (h : tracker.next.1 = .retry attempt delay) :
    attempt = countUp tracker.restarts ∧ tracker.next.2.restarts = attempt := by
  unfold next at h ⊢
  split at h
  · cases h
  · split at h
    · cases h
    · rename_i hgoes
      cases h
      simp [hgoes]

/-- No other decision counts. -/
theorem next_of_not_retry (h : ∀ attempt delay, tracker.next.1 ≠ .retry attempt delay) :
    tracker.next.2 = tracker := by
  unfold next at h ⊢
  split
  · rfl
  · rename_i policy _
    by_cases hexhausted : tracker.isExhausted = true
    · simp [hexhausted]
    · simp [hexhausted] at h

end RestartTracker

namespace Task

variable {stopping : Bool} {task : Task} {move : TaskMove} {step : TaskStep} {restarts : Nat}

/-- The process and its tracker agree that there were so many restarts. -/
def Counted (task : Task) (restarts : Nat) : Prop :=
  task.managed.restarts = attempt restarts ∧ task.tracker.restarts = attempt restarts

theorem counted_ofManaged {managed : Managed} (fresh : managed.Fresh) :
    (ofManaged managed).Counted 0 := by
  obtain ⟨spec, color, kind, rfl⟩ := fresh
  exact ⟨rfl, rfl⟩

/-- Every move counts the restarts that it announces. -/
theorem Moved.counted (h : Moved stopping task move step) (counted : task.Counted restarts) :
    step.task.Counted (restarts + (announcements step.events).length) := by
  obtain ⟨hmanaged, htracker⟩ := counted
  cases h with
  | read hread =>
    rw [announcements_read hread]
    obtain ⟨readers, rfl⟩ := Managed.read_frame hread
    exact ⟨hmanaged, htracker⟩
  | run at_ h =>
    rw [announcements_run h]
    cases h <;> exact ⟨hmanaged, htracker⟩
  | done at_ hdone =>
    have hnext : task.tracker.next.2 = task.tracker :=
      RestartTracker.next_of_not_retry (by simp [hdone])
    exact ⟨hmanaged, (congrArg _ hnext).trans htracker⟩
  | exhausted at_ hexhausted =>
    have hnext : task.tracker.next.2 = task.tracker :=
      RestartTracker.next_of_not_retry (by simp [hexhausted])
    exact ⟨hmanaged, (congrArg _ hnext).trans htracker⟩
  | retried at_ hretry =>
    obtain ⟨hattempt, hnext⟩ := RestartTracker.next_of_retry hretry
    rw [htracker, countUp_attempt] at hattempt
    exact ⟨hattempt, hnext.trans hattempt⟩
  | _ => exact ⟨hmanaged, htracker⟩

end Task

/-- Every restart that is announced in a move is counted in it. -/
theorem Transition.Seen.counted {transition : Transition} {index : Nat} {task after : Task}
    {restarts : Nat} (seen : transition.Seen index task after)
    (present : transition.before.tasks[index]? = some task) (counted : task.Counted restarts) :
    after.Counted (restarts + (announcements (transition.eventsOf index)).length) := by
  rcases seen.loop present with ⟨move, step, moved, rfl, _, _, hevents⟩ | ⟨rfl, _, _, hnone⟩
  · rw [hevents]
    exact moved.counted counted
  · rw [hnone]
    exact counted

/-- The restarts that show are those that were announced. -/
theorem Execution.counted {supervisor : Supervisor} {past : List Transition} {system : System}
    {index : Nat} {managed : Managed} (assembled : supervisor.Assembled)
    (run : Execution (.ofSupervisor supervisor) past system)
    (registered : supervisor.processes[index]? = some managed) :
    ∃ task, system.tasks[index]? = some task ∧
      task.Counted (announcements (eventsOf index past)).length := by
  have hfresh : managed.Fresh := assembled.fresh managed (List.mem_of_getElem? registered)
  refine run.process_induction
    (motive := fun past _ task ↦ task.Counted (announcements (eventsOf index past)).length)
    (System.tasks_ofSupervisor registered) (Task.counted_ofManaged hfresh) ?_
  intro past transition task after _ _ present seen counted
  rw [eventsOf_append, eventsOf_singleton, announcements_append, List.length_append]
  exact seen.counted present counted

theorem Execution.counted_at {supervisor : Supervisor} {past : List Transition} {system : System}
    {index : Nat} {managed : Managed} {task : Task} (assembled : supervisor.Assembled)
    (run : Execution (.ofSupervisor supervisor) past system)
    (registered : supervisor.processes[index]? = some managed)
    (present : system.tasks[index]? = some task) :
    task.Counted (announcements (eventsOf index past)).length := by
  obtain ⟨_, hpresent, counted⟩ := run.counted assembled registered
  obtain rfl := Option.some.inj (present.symm.trans hpresent)
  exact counted

theorem attempt_mono {restarts more : Nat} (h : restarts ≤ more) :
    attempt restarts ≤ attempt more := by
  rw [UInt32.le_iff_toNat_le, toNat_attempt, toNat_attempt]
  omega

/-! ## Runs that have begun -/

/-- Is the next run still to come, or was it cut off by a stop? -/
def Task.RunPending (task : Task) (beats : List Beat) : Prop :=
  match task.phase with
  | .running .opening | .delaying _ => True
  | .returned _ => beats.getLast? = some (.waited true)
  | _ => False

/-- A delay that is cut short is followed by no run. -/
theorem length_results_of_cut {policy : RestartPolicy} {name : String} {beats : List Beat}
    {stage : Stage} (h : reference policy name beats = some stage)
    (cut : beats.getLast? = some (.waited true)) : (results beats).length = stage.restarts := by
  obtain ⟨front, rfl⟩ := List.getLast?_eq_some_iff.mp cut
  obtain ⟨middle, hfront, hlast⟩ :=
    Option.bind_eq_some_iff.mp (List.foldlM_append.symm.trans h)
  obtain ⟨last, hnext, hend⟩ := Option.bind_eq_some_iff.mp hlast
  cases hend
  have hcounts := (reference_sound hfront).counts
  cases middle with
  | delaying restarts =>
    cases hnext
    simpa [Stage.restarts] using hcounts.1
  | _ => cases hnext

/-- A loop that was not cut off in a delay has run once more than it was restarted. -/
theorem Returns.length_results_of_uncut {policy : RestartPolicy} {name : String}
    {beats : List Beat} {restarts : Nat} {result : Except Failure Unit}
    (h : Returns policy name beats restarts result)
    (uncut : beats.getLast? ≠ some (.waited true)) : (results beats).length = restarts + 1 := by
  cases h with
  | failed _ _ ran | stopped ran | done _ ran | exhausted _ ran => exact ran
  | cut last => exact absurd last uncut

namespace LoopSound

variable {managed : Managed} {index : Nat} {past : List Transition} {task : Task} {stage : Stage}
  (sound : LoopSound managed index past task stage)

include sound

/-- Just those restarts were announced that the loop has counted. -/
theorem length_announcements :
    (announcements (eventsOf index past)).length = stage.restarts := by
  rw [sound.announcements_eq, announced, List.length_map, List.length_range]

/-- As many runs have begun as there were restarts, and one more unless the next is pending. -/
theorem openings_of_pending_or : task.RunPending (beats index past) ∧
      openings index past = stage.restarts ∨
    ¬task.RunPending (beats index past) ∧ openings index past = stage.restarts + 1 := by
  have hcounts := sound.stage_sound.counts
  have hmatches := sound.matched
  rw [sound.openings_eq]
  unfold Task.RunPending Task.opened
  cases stage with
  | running restarts =>
    obtain ⟨⟨phase, hphase⟩, _⟩ := hmatches
    rw [hphase, hcounts.1]
    cases phase <;> simp [Stage.restarts]
  | looking restarts | deciding restarts | delaying restarts =>
    rw [hmatches.1, hcounts.1]
    simp [Stage.restarts]
  | returned restarts result =>
    rw [show task.phase = .returned result from hmatches]
    by_cases hcut : (beats index past).getLast? = some (.waited true)
    · exact .inl ⟨hcut, length_results_of_cut sound.reference_eq hcut⟩
    · exact .inr ⟨hcut, hcounts.length_results_of_uncut hcut⟩

end LoopSound

/-! ## Snapshots -/

/-- May the task of a process wait for something here?  Before its first step it waits to be run,
then for its child, for the output, for the end of a delay, and in the end to be joined. -/
def TaskPhase.Suspended : TaskPhase → Prop
  | .running .opening | .running (.waiting _) | .running (.draining _) | .delaying _
  | .returned _ => True
  | _ => False

/-- Where a task may wait, a child is on record just while the process runs. -/
theorem Task.Sound.pid_isSome_iff {task : Task} (sound : task.Sound)
    (suspended : task.phase.Suspended) :
    task.managed.pid.isSome = true ↔ task.managed.state = .running := by
  unfold Task.Sound at sound
  unfold TaskPhase.Suspended at suspended
  split at suspended <;> simp_all

/-- What the status of a process shows. -/
structure Snapshot (managed : Managed) (index : Nat) (past : List Transition) (system : System)
    (task : Task) : Prop where
  /-- It is a snapshot of this task. -/
  shown : system.statuses[index]? = some task.managed.status
  /-- While the task waits, there is a number if and only if the process runs. -/
  pid_iff : task.phase.Suspended →
    (task.managed.status.pid.isSome = true ↔ task.managed.status.state = .running)
  /-- The restarts are those that the tracker has counted. -/
  restarts_eq : task.managed.status.restarts = task.tracker.restarts
  /-- All that were announced are counted, up to the largest count there is. -/
  counted : task.managed.status.restarts.toNat =
    min (announcements (eventsOf index past)).length 0xffffffff
  /-- They never get fewer. -/
  kept : ∀ future final after, Execution system future final →
    final.tasks[index]? = some after →
      task.managed.status.restarts ≤ after.managed.status.restarts
  /-- There are no more than the policy has as its limit. -/
  limited : ∀ limit delay, managed.spec.restart = .limited limit delay →
    task.managed.status.restarts ≤ limit
  /-- While the next run is pending, as many runs have begun as there were restarts. -/
  pending : (announcements (eventsOf index past)).length ≤ 0xffffffff →
    task.RunPending (beats index past) →
      openings index past = task.managed.status.restarts.toNat
  /-- At all other times it is one more. -/
  begun : (announcements (eventsOf index past)).length ≤ 0xffffffff →
    ¬task.RunPending (beats index past) →
      openings index past = task.managed.status.restarts.toNat + 1

/-- Every status of every process is consistent. -/
theorem snapshot_of_execution {supervisor : Supervisor} {past : List Transition} {system : System}
    {index : Nat} {managed : Managed} (assembled : supervisor.Assembled)
    (run : Execution (.ofSupervisor supervisor) past system)
    (registered : supervisor.processes[index]? = some managed) :
    ∃ task, system.tasks[index]? = some task ∧ Snapshot managed index past system task := by
  obtain ⟨task, stage, present, sound⟩ := run.loopSound registered
  obtain ⟨hsound, _⟩ := run.sound_at assembled registered present
  obtain ⟨hrestarts, htracker⟩ := run.counted_at assembled registered present
  have hlength := sound.length_announcements
  have hcount : task.managed.restarts.toNat =
      min (announcements (eventsOf index past)).length 0xffffffff := by
    rw [hrestarts, toNat_attempt]
  refine ⟨task, present, ?_⟩
  constructor
  case shown => simp [System.statuses, present]
  case pid_iff => exact hsound.pid_isSome_iff
  case restarts_eq => exact hrestarts.trans htracker.symm
  case counted => exact hcount
  case kept =>
    intro future final after rest hafter
    obtain ⟨hmore, _⟩ := Execution.counted_at assembled (run.trans rest) registered hafter
    change task.managed.restarts ≤ after.managed.restarts
    rw [hrestarts, hmore, eventsOf_append, announcements_append, List.length_append]
    exact attempt_mono (Nat.le_add_right _ _)
  case limited =>
    intro limit delay hpolicy
    have hallowed := sound.stage_sound.allowed
    rw [hpolicy] at hallowed
    have hle : stage.restarts ≤ limit.toNat := Nat.le_of_succ_le_succ hallowed
    refine UInt32.le_iff_toNat_le.mpr ?_
    change task.managed.restarts.toNat ≤ limit.toNat
    omega
  case pending =>
    intro unsaturated hpending
    change openings index past = task.managed.restarts.toNat
    rcases sound.openings_of_pending_or with ⟨_, hopenings⟩ | ⟨hnot, _⟩
    · omega
    · exact absurd hpending hnot
  case begun =>
    intro unsaturated hbegun
    change openings index past = task.managed.restarts.toNat + 1
    rcases sound.openings_of_pending_or with ⟨hpending, _⟩ | ⟨_, hopenings⟩
    · exact absurd hpending hbegun
    · omega

/-- A process whose second child is waited for. -/
theorem snapshot_of_execution_sleeper :
    ∃ managed past system task,
      Execution (.ofSupervisor (.ofSpecs [.sleeper .terminate (.limited 1 .zero)])) past system ∧
        Snapshot managed 0 past system task ∧ task.phase.Suspended ∧
          task.managed.status.pid = some 8 ∧ task.managed.status.restarts = 1 ∧
            openings 0 past = 2 := by
  have run := Trace.of_follow (show
    (System.ofSupervisor (.ofSpecs [.sleeper .terminate (.limited 1 .zero)])).follow
      (Move.start 0 7 ++ Move.exit 0 (.exited 1) ++
        [.task 0 .settle, .task 0 .check, .task 0 .decide, .task 0 .wake] ++ Move.start 0 8) =
          some (_, _) from rfl)
  obtain ⟨task, present, snapshot⟩ :=
    snapshot_of_execution (Supervisor.assembled_ofSpecs _) run
      (show (Supervisor.ofSpecs [.sleeper .terminate (.limited 1 .zero)]).processes[0]? = some _
        from rfl)
  obtain rfl := Option.some.inj present
  exact ⟨_, _, _, _, run, snapshot, trivial, rfl, rfl, rfl⟩

end Supervision
