import Supervision.Proofs.Restart.Reference
import Supervision.Proofs.Restart.Tracker
import Supervision.Proofs.Process.Lifecycle

/-!
# Restart loops follow their reference

Every move of the loop of a process is a beat of the reference or leaves it where it is.  The
tracker has counted the restarts that the reference counts, as far as its counter goes, and each
restart is announced with its number.
-/

namespace Supervision

/-! ## One move -/

/-- The number and the delay of a restart that is announced. -/
def Event.restart? : Event → Option (UInt32 × Span)
  | .wrote (.restarting attempt delay) => some (attempt, delay)
  | _ => none

def announcements (events : List Event) : List (UInt32 × Span) := events.filterMap Event.restart?

@[simp]
theorem announcements_append (events more : List Event) :
    announcements (events ++ more) = announcements events ++ announcements more := by
  simp [announcements]

/-- The announcements of so many restarts. -/
def announced (delay : Span) (restarts : Nat) : List (UInt32 × Span) :=
  (List.range restarts).map fun index ↦ (attempt (index + 1), delay)

theorem announced_succ (delay : Span) (restarts : Nat) :
    announced delay (restarts + 1) =
      announced delay restarts ++ [(attempt (restarts + 1), delay)] := by
  simp [announced, List.range_succ]

namespace Task

variable {stopping : Bool} {task : Task} {move : TaskMove} {step : TaskStep}
  {policy : RestartPolicy} {name : String} {stage : Stage}

/-- The beat that a move of the loop stands for; the moves within a run stand for none. -/
def beat? (task : Task) (stopping : Bool) : TaskMove → Option Beat
  | .settle =>
    match task.phase with
    | .running (.returned result) => some (.ran result)
    | _ => none
  | .check => some (.looked stopping)
  | .decide => some .decided
  | .wake => some (.waited false)
  | .cancel => some (.waited true)
  | .run _ | .read .. => none

/-- The loop stands at a stage, with the records that belong to it. -/
def Matches (task : Task) (policy : RestartPolicy) : Stage → Prop
  | .running restarts => (∃ phase, task.phase = .running phase) ∧
      task.started = (restarts != 0) ∧ task.tracker = .after policy restarts
  | .looking restarts => task.phase = .checking ∧
      task.started = true ∧ task.tracker = .after policy restarts
  | .deciding restarts => task.phase = .deciding ∧
      task.started = true ∧ task.tracker = .after policy restarts
  | .delaying restarts => task.phase = .delaying policy.delay ∧ restarts ≠ 0 ∧
      task.started = true ∧ task.tracker = .after policy restarts
  | .returned _ result => task.phase = .returned result

theorem matches_ofManaged (managed : Managed) :
    (ofManaged managed).Matches managed.spec.restart (.running 0) :=
  ⟨⟨.opening, rfl⟩, rfl, rfl⟩

theorem Matches.of_running {phase : RunPhase} (h : task.Matches policy stage)
    (at_ : task.phase = .running phase) :
    ∃ restarts, stage = .running restarts ∧
      task.started = (restarts != 0) ∧ task.tracker = .after policy restarts := by
  cases stage <;> simp_all [Matches]

theorem Matches.of_checking (h : task.Matches policy stage) (at_ : task.phase = .checking) :
    ∃ restarts, stage = .looking restarts ∧
      task.started = true ∧ task.tracker = .after policy restarts := by
  cases stage <;> simp_all [Matches]

theorem Matches.of_deciding (h : task.Matches policy stage) (at_ : task.phase = .deciding) :
    ∃ restarts, stage = .deciding restarts ∧
      task.started = true ∧ task.tracker = .after policy restarts := by
  cases stage <;> simp_all [Matches]

theorem Matches.of_delaying {delay : Span} (h : task.Matches policy stage)
    (at_ : task.phase = .delaying delay) :
    ∃ restarts, stage = .delaying restarts ∧ restarts ≠ 0 ∧
      task.started = true ∧ task.tracker = .after policy restarts := by
  cases stage <;> simp_all [Matches]

/-- What came of a move, told of the reference: the beat that it stands for was taken in, and the
announcements are those of the restarts so far. -/
def Follows (task : Task) (policy : RestartPolicy) (name : String) (stage : Stage)
    (beat : Option Beat) (events : List Event) : Prop :=
  ∃ after, beat.toList.foldlM (Stage.next policy name) stage = some after ∧
    task.Matches policy after ∧
      announced policy.delay stage.restarts ++ announcements events =
        announced policy.delay after.restarts

/-- A move that stands for no beat leaves the reference where it is. -/
theorem Matches.follows_of_no_beat {events : List Event} (h : task.Matches policy stage)
    (hnone : announcements events = []) : task.Follows policy name stage none events :=
  ⟨stage, rfl, h, by rw [hnone, List.append_nil]⟩

theorem announcements_run {managed : Managed} {phase : RunPhase} {move : RunMove} {step : RunStep}
    (h : Managed.Moved stopping managed phase move step) : announcements step.events = [] := by
  cases h with
  | waited pid waited => cases waited <;> rfl
  | _ => rfl

theorem announcements_read {managed : Managed} {run : Nat} {result : Output.ReadResult}
    {events : List Event} (h : task.managed.read run result = some (managed, events)) :
    announcements events = [] := by
  refine List.filterMap_eq_nil_iff.mpr fun event hevent ↦ ?_
  obtain ⟨_, rfl⟩ := Managed.copied_of_mem_read h hevent
  rfl

/-- What the policy decides after so many restarts, with what is kept of it. -/
theorem follows_decide {restarts : Nat} (hname : task.managed.name = name)
    (hstarted : task.started = true) (htracker : task.tracker = .after policy restarts) :
    task.decide.task.Follows policy name (.deciding restarts) (some .decided)
      task.decide.events := by
  have hretry (h : task.tracker.next =
      (.retry (attempt (restarts + 1)) policy.delay, .after policy (restarts + 1)))
      (hstage : Stage.decide policy name restarts = .delaying (restarts + 1)) :
      task.decide.task.Follows policy name (.deciding restarts) (some .decided)
        task.decide.events := by
    refine ⟨.delaying (restarts + 1), by simp [Stage.next, hstage], ?_, ?_⟩
    · simp [decide, h, Matches, hstarted]
    · simp only [decide, h, Stage.restarts, announced_succ]
      rfl
  cases policy with
  | never =>
    have hnext := RestartTracker.next_after_never restarts
    rw [← htracker] at hnext
    refine ⟨.returned restarts (.ok ()), rfl, ?_, ?_⟩
    · simp [decide, hnext, Matches, leave]
    · simp [decide, hnext, leave, Stage.restarts, announcements, Event.restart?]
  | limited limit delay =>
    have hnext := RestartTracker.next_after_limited limit delay restarts
    rw [← htracker] at hnext
    by_cases hlimit : restarts < limit.toNat
    · rw [if_pos hlimit] at hnext
      exact hretry hnext (by simp [Stage.decide, hlimit])
    · rw [if_neg hlimit] at hnext
      refine ⟨.returned restarts (.error (.restartsExhausted name)), ?_, ?_, ?_⟩
      · simp [Stage.next, Stage.decide, hlimit]
      · simp [decide, hnext, Matches, leave, ← hname, Managed.name]
      · simp [decide, hnext, leave, Stage.restarts, announcements, Event.restart?]
  | forever delay =>
    have hnext := RestartTracker.next_after_forever delay restarts
    rw [← htracker] at hnext
    exact hretry hnext rfl

theorem Moved.eq_decide (h : Moved stopping task .decide step) :
    task.phase = .deciding ∧ step = task.decide := by
  cases h with
  | done at_ h | exhausted at_ h | retried at_ h =>
    refine ⟨at_, ?_⟩
    unfold decide
    rw [show task.tracker.next = (task.tracker.next.1, task.tracker.next.2) from rfl, h]

/-- Every move of the loop follows the reference. -/
theorem Moved.follows (h : Moved stopping task move step) (hmatches : task.Matches policy stage)
    (hname : task.managed.name = name) :
    step.task.Follows policy name stage (task.beat? stopping move) step.events := by
  have hmoved := h
  cases h with
  | read hread =>
    refine Matches.follows_of_no_beat ?_ (announcements_read hread)
    cases stage <;> exact hmatches
  | run at_ h =>
    obtain ⟨restarts, rfl, hstarted, htracker⟩ := hmatches.of_running at_
    exact Matches.follows_of_no_beat ⟨⟨_, rfl⟩, hstarted, htracker⟩ (announcements_run h)
  | @succeeded status at_ =>
    obtain ⟨restarts, rfl, _, htracker⟩ := hmatches.of_running at_
    refine ⟨.looking restarts, ?_, ⟨rfl, rfl, htracker⟩, by simp [announcements, Stage.restarts]⟩
    simp [beat?, at_, Stage.next]
  | @failed failure at_ fatal =>
    obtain ⟨restarts, rfl, hstarted, htracker⟩ := hmatches.of_running at_
    have hends : restarts = 0 ∨ failure.isConfiguration = true := by simpa [hstarted] using fatal
    refine ⟨.returned restarts (.error failure), ?_, rfl, ?_⟩
    · simp [beat?, at_, Stage.next, hends]
    · simp [leave, announcements, Event.restart?, Stage.restarts]
  | @failedOnce failure at_ mild =>
    obtain ⟨restarts, rfl, hstarted, htracker⟩ := hmatches.of_running at_
    have hgoes : ¬(restarts = 0 ∨ failure.isConfiguration = true) := by
      simpa [hstarted] using mild
    refine ⟨.looking restarts, ?_, ⟨rfl, rfl, htracker⟩, ?_⟩
    · simp [beat?, at_, Stage.next, hgoes]
    · simp [announcements, Event.restart?, Stage.restarts]
  | stopped at_ asked =>
    obtain ⟨restarts, rfl, _, htracker⟩ := hmatches.of_checking at_
    refine ⟨.returned restarts (.ok ()), ?_, rfl, ?_⟩
    · simp [beat?, asked, Stage.next]
    · simp [leave, announcements, Event.restart?, Stage.restarts]
  | unstopped at_ unasked =>
    obtain ⟨restarts, rfl, hstarted, htracker⟩ := hmatches.of_checking at_
    refine ⟨.deciding restarts, ?_, ⟨rfl, hstarted, htracker⟩, ?_⟩
    · simp [beat?, unasked, Stage.next]
    · simp [announcements, Stage.restarts]
  | done | exhausted | retried =>
    obtain ⟨at_, hstep⟩ := hmoved.eq_decide
    obtain ⟨restarts, rfl, hstarted, htracker⟩ := hmatches.of_deciding at_
    rw [hstep]
    exact follows_decide hname hstarted htracker
  | woken at_ =>
    obtain ⟨restarts, rfl, hrestarts, hstarted, htracker⟩ := hmatches.of_delaying at_
    refine ⟨.running restarts, rfl, ⟨⟨_, rfl⟩, ?_, htracker⟩, ?_⟩
    · simp [hstarted, hrestarts]
    · simp [announcements, Stage.restarts]
  | cancelled at_ asked =>
    obtain ⟨restarts, rfl, _, _, htracker⟩ := hmatches.of_delaying at_
    refine ⟨.returned restarts (.ok ()), rfl, rfl, ?_⟩
    simp [leave, announcements, Event.restart?, Stage.restarts]

theorem Moved.started (h : Moved stopping task move step) (started : task.started = true) :
    step.task.started = true := by
  cases h with
  | succeeded | failedOnce => rfl
  | _ => exact started

/-- Has the present run begun to do something? -/
def opened (task : Task) : Nat :=
  match task.phase with
  | .running .opening => 0
  | .running _ => 1
  | _ => 0

theorem opened_le (task : Task) : task.opened ≤ 1 := by
  unfold opened
  split <;> omega

/-- A loop that has returned makes no move any more; only output is still read. -/
theorem Moved.of_returned {result : Except Failure Unit} (h : Moved stopping task move step)
    (at_ : task.phase = .returned result) :
    step.task.phase = .returned result ∧ task.beat? stopping move = none := by
  obtain ⟨_, _, rfl, _, hphase⟩ := h.read_of_returned at_
  exact ⟨hphase, rfl⟩

/-- Between two runs and before it returns, the loop can always take in a beat. -/
theorem exists_beat (stopping : Bool)
    (between : ∀ phase, task.phase = .running phase → ∃ result, phase = .returned result)
    (unreturned : ∀ result, task.phase ≠ .returned result) :
    ∃ move step beat, task.advance stopping move = some step ∧
      task.beat? stopping move = some beat := by
  cases hphase : task.phase with
  | running phase =>
    obtain ⟨result, rfl⟩ := between phase hphase
    exact ⟨.settle, task.settle result, .ran result, by simp [advance, hphase],
      by simp [beat?, hphase]⟩
  | checking => cases stopping <;> exact ⟨.check, _, _, by simp [advance, hphase]; rfl, rfl⟩
  | deciding => exact ⟨.decide, task.decide, .decided, by simp [advance, hphase], rfl⟩
  | delaying delay => exact ⟨.wake, _, .waited false, by simp [advance, hphase]; rfl, rfl⟩
  | returned result => exact absurd hphase (unreturned result)

end Task

/-- Is this the move that opens a channel for a new run? -/
def TaskMove.opens : TaskMove → Bool
  | .run (.openChannel _) => true
  | _ => false

/-- Results and the run under way together are as many as the channels that were opened. -/
theorem Task.Moved.opened {stopping : Bool} {task : Task} {move : TaskMove} {step : TaskStep}
    (h : Task.Moved stopping task move step) :
    (results (task.beat? stopping move).toList).length + step.task.opened =
      task.opened + move.opens.toNat := by
  cases h with
  | read hread => simp [beat?, Task.opened, TaskMove.opens]
  | run at_ h =>
    cases h <;> simp [beat?, Task.opened, TaskMove.opens, at_]
  | succeeded at_ | failed at_ | failedOnce at_ | stopped at_ | unstopped at_ | done at_
  | exhausted at_ | retried at_ | woken at_ | cancelled at_ =>
    simp [beat?, Task.opened, TaskMove.opens, at_, leave]

/-! ## Stops -/

/-- How a loop ends that was in a delay when a stop was asked for. -/
inductive WindsDown : List Beat → TaskPhase → Prop
  | delaying (delay : Span) : WindsDown [] (.delaying delay)
  | cut : WindsDown [.waited true] (.returned (.ok ()))
  | running (phase : RunPhase) : WindsDown [.waited false] (.running phase)
  | looking (result : RunResult) : WindsDown [.waited false, .ran result] .checking
  | failed (failure : Failure) (fatal : failure.isConfiguration = true) :
      WindsDown [.waited false, .ran (.error failure)] (.returned (.error failure))
  | stopped (result : RunResult) :
      WindsDown [.waited false, .ran result, .looked true] (.returned (.ok ()))

/-- A loop that was in a delay runs at most once more when a stop was asked for. -/
theorem Task.Moved.windsDown {task : Task} {move : TaskMove} {step : TaskStep} {beats : List Beat}
    (h : Task.Moved true task move step) (started : task.started = true)
    (down : WindsDown beats task.phase) :
    WindsDown (beats ++ (task.beat? true move).toList) step.task.phase := by
  cases h with
  | read hread => simpa [beat?] using down
  | run at_ h =>
    rw [at_] at down
    cases down
    exact .running _
  | succeeded at_ =>
    rw [at_] at down
    cases down
    simpa [beat?, at_] using WindsDown.looking _
  | @failed failure at_ fatal =>
    have hconfiguration : failure.isConfiguration = true := by simpa [started] using fatal
    rw [at_] at down
    cases down
    simpa [beat?, at_, leave] using WindsDown.failed failure hconfiguration
  | failedOnce at_ mild =>
    rw [at_] at down
    cases down
    simpa [beat?, at_] using WindsDown.looking _
  | stopped at_ asked =>
    rw [at_] at down
    cases down
    exact .stopped _
  | unstopped at_ unasked => cases unasked
  | done at_ | exhausted at_ | retried at_ =>
    rw [at_] at down
    cases down
  | woken at_ =>
    rw [at_] at down
    cases down
    exact .running _
  | cancelled at_ asked =>
    rw [at_] at down
    cases down
    exact .cut

end Supervision
