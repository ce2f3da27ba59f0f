import Supervision.Proofs.Restart.Loop
import Supervision.Proofs.Shutdown.Escape

/-!
# The budget of restarts

In every execution the loop of a process takes in the beats of its reference and stands where the
reference does, whatever the other processes and the shutdown do in between.  The number of runs,
the reasons for a return, the announcements and the end of a loop that is stopped in a delay are
read off there.
-/

namespace Supervision

/-- The beat of the loop of a process in a move of the whole, if it is one. -/
def Transition.beat? (transition : Transition) (index : Nat) : Option Beat :=
  match transition.move with
  | .task other move =>
    if other = index then
      transition.before.tasks[index]?.bind fun task ↦ task.beat? transition.before.stopping move
    else none
  | _ => none

def beats (index : Nat) (past : List Transition) : List Beat :=
  past.filterMap fun transition ↦ transition.beat? index

/-- Does the move open a channel for a new run of the process? -/
def Move.opens (index : Nat) : Move → Bool
  | .task other move => other == index && move.opens
  | _ => false

def openings (index : Nat) (past : List Transition) : Nat :=
  past.countP fun transition ↦ transition.move.opens index

@[simp]
theorem beats_append (index : Nat) (past future : List Transition) :
    beats index (past ++ future) = beats index past ++ beats index future := by
  simp [beats]

@[simp]
theorem beats_singleton (index : Nat) (transition : Transition) :
    beats index [transition] = (transition.beat? index).toList := by
  cases h : transition.beat? index <;> simp [beats, h]

theorem openings_append_singleton (index : Nat) (past : List Transition)
    (transition : Transition) :
    openings index (past ++ [transition]) =
      openings index past + (transition.move.opens index).toNat := by
  cases h : transition.move.opens index <;> simp [openings, h]

theorem announcements_interrupt (managed : Managed) (sent : Except Failure Unit) :
    announcements (managed.interrupt sent) = [] := by
  unfold Managed.interrupt Managed.signal
  cases managed.pid with
  | none => rfl
  | some pid => cases sent <;> rfl

theorem announcements_kill (managed : Managed) (sent : Except Failure Unit) :
    announcements (managed.kill sent) = [] := by
  unfold Managed.kill Managed.signal
  cases managed.pid with
  | none => rfl
  | some pid => cases sent <;> rfl

namespace Transition.Seen

variable {transition : Transition} {index : Nat} {task after : Task} {policy : RestartPolicy}
  {name : String} {stage : Stage}

/-- A transition is a move of the loop itself, or passes the loop by. -/
theorem loop (seen : transition.Seen index task after)
    (present : transition.before.tasks[index]? = some task) :
    (∃ move step, Task.Moved transition.before.stopping task move step ∧ step.task = after ∧
      transition.beat? index = task.beat? transition.before.stopping move ∧
        transition.move.opens index = move.opens ∧ transition.eventsOf index = step.events) ∨
    after = task ∧ transition.beat? index = none ∧ transition.move.opens index = false ∧
      announcements (transition.eventsOf index) = [] := by
  cases seen with
  | @own move step made moved stopping uncalled events =>
    refine .inl ⟨move, step, moved, rfl, ?_, ?_, events⟩
    · simp [beat?, made, present]
    · simp [made, Move.opens]
  | interrupted made called free events =>
    refine .inr ⟨rfl, by simp [beat?, made], by simp [made, Move.opens], ?_⟩
    rw [events]
    exact announcements_interrupt task.managed _
  | killed made called free events =>
    refine .inr ⟨rfl, by simp [beat?, made], by simp [made, Move.opens], ?_⟩
    rw [events]
    exact announcements_kill task.managed _
  | apart unmoved uncalled events =>
    have hother (other : Nat) (move : TaskMove) (made : transition.move = .task other move) :
        other ≠ index := by
      rintro rfl
      exact unmoved move made
    refine .inr ⟨rfl, ?_, ?_, by rw [events]; rfl⟩
    · unfold beat?
      split
      · exact if_neg (hother _ _ ‹_›)
      · rfl
    · cases hmove : transition.move with
      | task other move => simp [Move.opens, hother other move hmove]
      | _ => rfl

/-- Whatever a process sees of a move, the reference keeps up with its loop. -/
theorem follows (seen : transition.Seen index task after)
    (present : transition.before.tasks[index]? = some task)
    (hmatches : task.Matches policy stage) (hname : task.managed.name = name) :
    after.Follows policy name stage (transition.beat? index) (transition.eventsOf index) := by
  rcases seen.loop present with ⟨move, step, moved, rfl, hbeat, _, hevents⟩ |
    ⟨rfl, hbeat, _, hnone⟩
  · rw [hbeat, hevents]
    exact moved.follows hmatches hname
  · rw [hbeat]
    exact hmatches.follows_of_no_beat hnone

/-- Nothing becomes of a loop that has returned. -/
theorem ended {result : Except Failure Unit} (seen : transition.Seen index task after)
    (present : transition.before.tasks[index]? = some task)
    (returned : task.phase = .returned result) :
    after.phase = .returned result ∧ transition.beat? index = none ∧
      ∀ pid, .spawned pid ∉ transition.eventsOf index := by
  have hnone (pid : UInt32) : .spawned pid ∉ transition.eventsOf index := by
    intro hspawned
    apply (seen.eventsOf_eq_of_spawned hspawned).1
    unfold Task.Quiet
    rw [returned]
    trivial
  rcases seen.loop present with ⟨move, step, moved, rfl, hbeat, _⟩ | ⟨rfl, hbeat, _⟩
  · obtain ⟨hreturned, hmove⟩ := moved.of_returned returned
    exact ⟨hreturned, hbeat.trans hmove, hnone⟩
  · exact ⟨returned, hbeat, hnone⟩

theorem windsDown {beats : List Beat} (seen : transition.Seen index task after)
    (present : transition.before.tasks[index]? = some task)
    (asked : transition.before.stopping = true) (started : task.started = true)
    (down : WindsDown beats task.phase) :
    after.started = true ∧ WindsDown (beats ++ (transition.beat? index).toList) after.phase := by
  rcases seen.loop present with ⟨move, step, moved, rfl, hbeat, _⟩ | ⟨rfl, hbeat, _⟩
  · rw [asked] at moved hbeat
    rw [hbeat]
    exact ⟨moved.started started, moved.windsDown started down⟩
  · rw [hbeat]
    exact ⟨started, by simpa using down⟩

end Transition.Seen

/-- What is known of a loop that stands at a stage of its reference. -/
structure LoopSound (managed : Managed) (index : Nat) (past : List Transition) (task : Task)
    (stage : Stage) : Prop where
  reference_eq : reference managed.spec.restart managed.name (beats index past) = some stage
  matched : task.Matches managed.spec.restart stage
  spec_eq : task.managed.spec = managed.spec
  announcements_eq : announcements (eventsOf index past) =
    announced managed.spec.restart.delay stage.restarts
  openings_eq : openings index past = (results (beats index past)).length + task.opened

/-- One move keeps what is known of a loop.  A run counts as begun when its channel is opened and as
a result when that is taken, so a run under way makes the difference. -/
theorem LoopSound.advance {managed : Managed} {index : Nat} {past : List Transition}
    {transition : Transition} {task after : Task} {stage : Stage}
    (sound : LoopSound managed index past task stage)
    (present : transition.before.tasks[index]? = some task)
    (seen : transition.Seen index task after) :
    ∃ stage, LoopSound managed index (past ++ [transition]) after stage := by
  have hname : task.managed.name = managed.name := congrArg ProcessSpec.name sound.spec_eq
  obtain ⟨next, hnext, hmatches, hannounced⟩ := seen.follows present sound.matched hname
  refine ⟨next, ?_, hmatches, seen.spec.trans sound.spec_eq, ?_, ?_⟩
  · rw [beats_append, beats_singleton]
    exact reference_append sound.reference_eq hnext
  · rw [eventsOf_append, eventsOf_singleton, announcements_append, sound.announcements_eq]
    exact hannounced
  · rw [openings_append_singleton, beats_append, beats_singleton, results_append,
      List.length_append, sound.openings_eq]
    rcases seen.loop present with ⟨move, step, moved, rfl, hbeat, hopens, _⟩ |
      ⟨rfl, hbeat, hopens, _⟩
    · have hopened := moved.opened
      rw [hbeat, hopens]
      omega
    · rw [hbeat, hopens]
      rfl

theorem Execution.loopSound {supervisor : Supervisor} {past : List Transition} {system : System}
    {index : Nat} {managed : Managed} (run : Execution (.ofSupervisor supervisor) past system)
    (registered : supervisor.processes[index]? = some managed) :
    ∃ task stage, system.tasks[index]? = some task ∧ LoopSound managed index past task stage := by
  have key : ∃ task, system.tasks[index]? = some task ∧
      ∃ stage, LoopSound managed index past task stage := by
    refine run.process_induction
      (motive := fun past _ task ↦ ∃ stage, LoopSound managed index past task stage)
      (System.tasks_ofSupervisor registered)
      ⟨.running 0, rfl, Task.matches_ofManaged managed, rfl, rfl, rfl⟩ ?_
    rintro _ _ _ _ _ _ present seen ⟨_, sound⟩
    exact sound.advance present seen
  obtain ⟨task, present, stage, sound⟩ := key
  exact ⟨task, stage, present, sound⟩

/-- A loop that has returned takes nothing in and starts nothing any more. -/
theorem Execution.ended {system final : System} {future : List Transition} {index : Nat}
    {result : Except Failure Unit} (rest : Execution system future final)
    (at_ : system.phase? index = some (.returned result)) :
    final.phase? index = some (.returned result) ∧ beats index future = [] ∧
      ∀ pid, .spawned pid ∉ eventsOf index future := by
  obtain ⟨task, present, hphase⟩ := Option.map_eq_some_iff.mp at_
  have key : ∃ task, final.tasks[index]? = some task ∧ task.phase = .returned result ∧
      beats index future = [] ∧ ∀ pid, .spawned pid ∉ eventsOf index future := by
    refine rest.process_induction
      (motive := fun future _ task ↦ task.phase = .returned result ∧ beats index future = [] ∧
        ∀ pid, .spawned pid ∉ eventsOf index future) present ⟨hphase, rfl, by simp⟩ ?_
    intro future transition task after _ _ present seen ⟨hreturned, hbeats, hnone⟩
    obtain ⟨hafter, hbeat, hspawned⟩ := seen.ended present hreturned
    refine ⟨hafter, by simp [hbeats, hbeat], fun pid ↦ ?_⟩
    simpa using ⟨hnone pid, hspawned pid⟩
  obtain ⟨after, hafter, hreturned, hrest⟩ := key
  exact ⟨by rw [System.phase?, hafter, Option.map_some, hreturned], hrest⟩

/-- After a stop in a delay the loop starts nothing any more, and ends as it should. -/
theorem Execution.windsDown {system final : System} {future : List Transition} {index : Nat}
    {task : Task} {delay : Span} (rest : Execution system future final)
    (asked : system.stopping = true) (present : system.tasks[index]? = some task)
    (at_ : task.phase = .delaying delay) (started : task.started = true) :
    (∀ pid, .spawned pid ∉ eventsOf index future) ∧
      ∃ phase, final.phase? index = some phase ∧ WindsDown (beats index future) phase := by
  have quiet : task.Quiet := by
    unfold Task.Quiet
    rw [at_]
    trivial
  refine ⟨System.neverSpawns_of_quiet asked present quiet future final rest, ?_⟩
  have key : ∃ task, final.tasks[index]? = some task ∧ task.started = true ∧
      WindsDown (beats index future) task.phase := by
    refine rest.process_induction
      (motive := fun future _ task ↦ task.started = true ∧
        WindsDown (beats index future) task.phase) present ⟨started, at_ ▸ .delaying delay⟩ ?_
    intro future transition task after before _ present seen ⟨hstarted, hdown⟩
    rw [beats_append, beats_singleton]
    exact seen.windsDown present (before.stopping asked) hstarted hdown
  obtain ⟨after, hafter, _, hdown⟩ := key
  exact ⟨after.phase, by rw [System.phase?, hafter, Option.map_some], hdown⟩

/-- Does the reference stand where the loop does? -/
def Stage.Agrees (policy : RestartPolicy) : Stage → TaskPhase → Prop
  | .running _, .running _ | .looking _, .checking | .deciding _, .deciding => True
  | .delaying _, .delaying delay => delay = policy.delay
  | .returned _ result, .returned other => result = other
  | _, _ => False

/-- What the restart loop of a process has done after some moves of the whole. -/
structure RestartsAsMeant (managed : Managed) (index : Nat) (past : List Transition)
    (system : System) : Prop where
  /-- The loop stands where its reference does, and has announced the restarts counted there. -/
  stands : ∃ stage phase, reference managed.spec.restart managed.name (beats index past) =
    some stage ∧ system.phase? index = some phase ∧ stage.Agrees managed.spec.restart phase ∧
      announcements (eventsOf index past) = announced managed.spec.restart.delay stage.restarts
  /-- No more runs are begun than the policy allows. -/
  allowed : managed.spec.restart.Allows (openings index past)
  /-- A failed first run and a fault of the configuration are returned at once. -/
  fatal : ∀ (run : Nat) failure, (results (beats index past))[run]? = some (.error failure) →
    (run = 0 ∨ failure.isConfiguration = true) →
      system.phase? index = some (.returned (.error failure))
  /-- A look that finds a stop ends the loop well. -/
  stopped : ∀ run : Nat, (looks (beats index past))[run]? = some true →
    system.phase? index = some (.returned (.ok ()))
  /-- The restarts are exhausted exactly if there was one look more than the limit, none of them
  found a stop, and the decision is made. -/
  exhausted_iff :
    system.phase? index = some (.returned (.error (.restartsExhausted managed.name))) ↔
    (∃ limit delay, managed.spec.restart = .limited limit delay ∧
      looks (beats index past) = List.replicate (limit.toNat + 1) false ∧
        system.phase? index ≠ some .deciding) ∨
    results (beats index past) = [.error (.restartsExhausted managed.name)]
  /-- There are no other reasons to return. -/
  returns : ∀ result, system.phase? index = some (.returned result) →
    ∃ restarts, Returns managed.spec.restart managed.name (beats index past) restarts result
  /-- A loop that has returned does nothing any more. -/
  ended : ∀ result, system.phase? index = some (.returned result) →
    ∀ future final, Execution system future final →
      final.phase? index = some (.returned result) ∧ beats index future = [] ∧
        ∀ pid, .spawned pid ∉ eventsOf index future
  /-- A stop in a delay can cut it short, and whatever is done instead, no child is started. -/
  stopped_in_delay : system.stopping = true →
    ∀ delay, system.phase? index = some (.delaying delay) →
    (∃ step, system.advance (.task index .cancel) = some step ∧
      step.system.phase? index = some (.returned (.ok ()))) ∧
    ∀ future final, Execution system future final →
      (∀ pid, .spawned pid ∉ eventsOf index future) ∧
        ∃ phase, final.phase? index = some phase ∧ WindsDown (beats index future) phase
  /-- Between two runs the loop can always go on. -/
  goes_on : ∀ phase, system.phase? index = some phase →
    (∀ inner, phase = .running inner → ∃ result, inner = .returned result) →
      (∀ result, phase ≠ .returned result) →
        ∃ move step beat, system.advance (.task index move) = some step ∧
          Transition.beat? ⟨system, .task index move, step⟩ index = some beat

namespace LoopSound

variable {managed : Managed} {index : Nat} {past : List Transition} {task : Task} {stage : Stage}
  (sound : LoopSound managed index past task stage)

include sound

theorem stage_sound : stage.Sound managed.spec.restart managed.name (beats index past) :=
  reference_sound sound.reference_eq

theorem agrees : stage.Agrees managed.spec.restart task.phase := by
  have hmatches := sound.matched
  cases stage with
  | running restarts =>
    obtain ⟨⟨phase, hphase⟩, _⟩ := hmatches
    rw [hphase]
    trivial
  | looking restarts | deciding restarts =>
    rw [hmatches.1]
    trivial
  | delaying restarts =>
    rw [hmatches.1]
    rfl
  | returned restarts result =>
    rw [show task.phase = .returned result from hmatches]
    rfl

/-- The loop returns when the reference does, and with the same result. -/
theorem phase_eq_returned_iff (result : Except Failure Unit) :
    task.phase = .returned result ↔ ∃ restarts, stage = .returned restarts result := by
  have hagrees := sound.agrees
  constructor
  · intro hphase
    rw [hphase] at hagrees
    cases stage with
    | returned restarts other => exact ⟨restarts, congrArg _ hagrees⟩
    | _ => exact hagrees.elim
  · rintro ⟨restarts, rfl⟩
    exact sound.matched

theorem phase_eq_deciding_iff :
    task.phase = .deciding ↔ ∃ restarts, stage = .deciding restarts := by
  have hagrees := sound.agrees
  constructor
  · intro hphase
    rw [hphase] at hagrees
    cases stage with
    | deciding restarts => exact ⟨restarts, rfl⟩
    | _ => exact hagrees.elim
  · rintro ⟨restarts, rfl⟩
    exact sound.matched.1

/-- No more runs are begun than there are restarts and one. -/
theorem openings_le : openings index past ≤ stage.restarts + 1 := by
  have hcounts := sound.stage_sound.counts
  have hmatches := sound.matched
  rw [sound.openings_eq]
  cases stage with
  | running restarts => exact Nat.add_le_add (Nat.le_of_eq hcounts.1) task.opened_le
  | looking restarts | deciding restarts | delaying restarts =>
    have hopened : task.opened = 0 := by
      unfold Task.opened
      rw [hmatches.1]
    rw [hcounts.1, hopened]
    simp [Stage.restarts]
  | returned restarts result =>
    have hopened : task.opened = 0 := by
      unfold Task.opened
      rw [show task.phase = .returned result from hmatches]
    rw [hopened]
    exact hcounts.length_results_le

end LoopSound

/-- The restart loop of every process follows its reference in every execution. -/
theorem restarts_as_meant {supervisor : Supervisor} {past : List Transition} {system : System}
    {index : Nat} {managed : Managed} (run : Execution (.ofSupervisor supervisor) past system)
    (registered : supervisor.processes[index]? = some managed) :
    RestartsAsMeant managed index past system := by
  obtain ⟨task, stage, present, sound⟩ := run.loopSound registered
  have hphase : system.phase? index = some task.phase := by
    rw [System.phase?, present, Option.map_some]
  have hstage := sound.stage_sound
  constructor
  case stands =>
    exact ⟨stage, task.phase, sound.reference_eq, hphase, sound.agrees, sound.announcements_eq⟩
  case allowed => exact hstage.allowed.mono sound.openings_le
  case fatal =>
    intro index failure hresult hfatal
    rw [hphase, (sound.phase_eq_returned_iff _).mpr ⟨_, hstage.fatal index failure hresult hfatal⟩]
  case stopped =>
    intro index hlook
    rw [hphase, (sound.phase_eq_returned_iff _).mpr ⟨_, hstage.eq_returned_of_looked hlook⟩]
  case exhausted_iff =>
    rw [hphase, Option.some.injEq, sound.phase_eq_returned_iff, hstage.exhausted_iff]
    simp only [ne_eq, Option.some.injEq, sound.phase_eq_deciding_iff, not_exists]
  case returns =>
    intro result hreturned
    obtain ⟨restarts, rfl⟩ :=
      (sound.phase_eq_returned_iff result).mp (Option.some.inj (hphase.symm.trans hreturned))
    exact ⟨restarts, hstage.counts⟩
  case ended => exact fun result hreturned future final rest ↦ rest.ended hreturned
  case stopped_in_delay =>
    intro asked delay hdelay
    have hdelaying : task.phase = .delaying delay := Option.some.inj (hphase.symm.trans hdelay)
    obtain ⟨_, _, _, started, _⟩ := sound.matched.of_delaying hdelaying
    refine ⟨?_, fun future final rest ↦ rest.windsDown asked present hdelaying started⟩
    have hcancel : task.advance system.stopping .cancel = some (task.leave (.ok ()) []) := by
      simp [Task.advance, hdelaying, asked]
    obtain ⟨hlt, _⟩ := List.getElem?_eq_some_iff.mp present
    refine ⟨_, System.advance_task present hcancel, ?_⟩
    simp [System.phase?, List.getElem?_set_self hlt, Task.leave]
  case goes_on =>
    intro phase hsome between unreturned
    obtain rfl : task.phase = phase := Option.some.inj (hphase.symm.trans hsome)
    obtain ⟨move, step, beat, hadvance, hbeat⟩ :=
      Task.exists_beat system.stopping between unreturned
    refine ⟨move, _, beat, System.advance_task present hadvance, ?_⟩
    simp [Transition.beat?, present, hbeat]

/-- A process that may be restarted once is given up after its second exit. -/
theorem restarts_as_meant_sleeper :
    ∃ past system,
      Execution (.ofSupervisor (.ofSpecs [.sleeper .terminate (.limited 1 .zero)])) past system ∧
        system.phase? 0 = some (.returned (.error (.restartsExhausted "sleeper"))) := by
  let round (pid : UInt32) : List Move :=
    Move.start 0 pid ++ Move.exit 0 (.exited 1) ++
      [.task 0 .settle, .task 0 .check, .task 0 .decide]
  have run := Trace.of_follow (show
    (System.ofSupervisor (.ofSpecs [.sleeper .terminate (.limited 1 .zero)])).follow
      (round 7 ++ [.task 0 .wake] ++ round 8) = some (_, _) from rfl)
  have meant := restarts_as_meant run
    (show (Supervisor.ofSpecs [.sleeper .terminate (.limited 1 .zero)]).processes[0]? = some _
      from rfl)
  exact ⟨_, _, run, meant.exhausted_iff.mpr (.inl ⟨1, .zero, rfl, rfl, nofun⟩)⟩

end Supervision
