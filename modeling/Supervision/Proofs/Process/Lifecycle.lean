import Supervision.Proofs.Assembly
import Supervision.Proofs.Process.Moves

/-!
# What is recorded of a process

How far a restart loop has come tells what is recorded of its process: a number only while there is
a child that has not been cleared, "running" only from the announcement of a child until its exit is
published, and nothing of either once the loop is through.
-/

namespace Supervision

namespace Managed

/-- A read changes nothing of a process but its readers. -/
theorem read_frame {managed after : Managed} {run : Nat} {result : Output.ReadResult}
    {events : List Event} (h : managed.read run result = some (after, events)) :
    ∃ readers, after = { managed with readers } := by
  obtain ⟨reader, _, hafter⟩ := Option.map_eq_some_iff.mp h
  cases hafter
  exact ⟨_, rfl⟩

theorem copied_of_mem_read {managed after : Managed} {run : Nat} {result : Output.ReadResult}
    {events : List Event} (h : managed.read run result = some (after, events)) {event : Event}
    (he : event ∈ events) : ∃ content, event = .copied run content := by
  obtain ⟨reader, _, hafter⟩ := Option.map_eq_some_iff.mp h
  cases hafter
  obtain ⟨content, _, rfl⟩ := List.mem_map.mp he
  exact ⟨content, rfl⟩

end Managed

namespace Task

variable {stopping : Bool} {task : Task} {move : TaskMove} {step : TaskStep} {pid : UInt32}

/-- What is recorded of the process fits how far its loop has come. -/
def Sound (task : Task) : Prop :=
  match task.phase with
  | .running (.recorded pid) => task.managed.pid = some pid ∧ task.managed.state ≠ .running
  | .running (.waiting pid) => task.managed.pid = some pid ∧ task.managed.state = .running
  | .running (.reaped _) => task.managed.state = .running
  | .running (.cleared _) => task.managed.pid = none ∧ task.managed.state = .running
  | .returned _ => task.managed.pid = none ∧ task.managed.state = .terminal
  | _ => task.managed.pid = none ∧ task.managed.state ≠ .running

theorem sound_ofManaged {managed : Managed} (fresh : managed.Fresh) :
    (ofManaged managed).Sound := by
  obtain ⟨spec, color, kind, rfl⟩ := fresh
  refine ⟨rfl, ?_⟩
  intro hstate
  cases hstate

/-- Every move keeps what is recorded in step with the loop. -/
theorem Moved.sound (h : Moved stopping task move step) (sound : task.Sound) :
    step.task.Sound := by
  cases h with
  | read hread =>
    obtain ⟨readers, rfl⟩ := Managed.read_frame hread
    exact sound
  | run at_ h =>
    unfold Sound at sound
    rw [at_] at sound
    cases h <;> simp_all [Sound]
  | succeeded at_ | failed at_ | failedOnce at_ | stopped at_ | unstopped at_ | done at_
  | exhausted at_ | retried at_ | woken at_ | cancelled at_ =>
    unfold Sound at sound
    rw [at_] at sound
    simp_all [Sound, leave]

/-- No child is started or about to be announced. -/
def Quiet (task : Task) : Prop :=
  match task.phase with
  | .running .launching | .running (.recorded _) => False
  | _ => True

theorem quiet_of_not_holdsLock (h : task.holdsLock = false) : task.Quiet := by
  unfold Quiet
  split <;> simp_all [holdsLock, RunPhase.holdsLock]

/-- Once a stop was asked for, a loop that is not about to start a child never will be. -/
theorem Moved.quiet (h : Moved true task move step) (quiet : task.Quiet) : step.task.Quiet := by
  cases h with
  | read hread => exact quiet
  | run at_ h =>
    unfold Quiet at quiet
    rw [at_] at quiet
    cases h <;> simp_all [Quiet]
  | _ => trivial

/-- A quiet process that does not run has no child on record. -/
theorem Sound.pid_eq_none (sound : task.Sound) (quiet : task.Quiet)
    (stopped : task.managed.state ≠ .running) : task.managed.pid = none := by
  unfold Sound at sound
  unfold Quiet at quiet
  split at sound <;> simp_all

/-- Without a start of a child no number gets recorded. -/
theorem Moved.pid_eq_none (h : Moved stopping task move step) (quiet : task.Quiet)
    (unrecorded : task.managed.pid = none) : step.task.managed.pid = none := by
  cases h with
  | read hread =>
    obtain ⟨readers, rfl⟩ := Managed.read_frame hread
    exact unrecorded
  | run at_ h =>
    unfold Quiet at quiet
    rw [at_] at quiet
    cases h <;> simp_all
  | _ => exact unrecorded

/-- The child that the loop has started and that has not been waited for to the end. -/
def child? (task : Task) : Option UInt32 :=
  match task.phase with
  | .running (.recorded pid) | .running (.waiting pid) => some pid
  | _ => none

/-- The child of the loop is the one on record. -/
theorem Sound.pid_of_child (sound : task.Sound) (h : task.child? = some pid) :
    task.managed.pid = some pid := by
  unfold Sound at sound
  unfold child? at h
  split at h <;> simp_all

/-- No move changes the description. -/
theorem Moved.spec (h : Moved stopping task move step) :
    step.task.managed.spec = task.managed.spec := by
  cases h with
  | read hread =>
    obtain ⟨readers, rfl⟩ := Managed.read_frame hread
    rfl
  | run at_ h => cases h <;> rfl
  | _ => rfl

/-- A child is started by itself, when the loop had none and was about to. -/
theorem Moved.events_eq_of_spawned (h : Moved stopping task move step)
    (hs : .spawned pid ∈ step.events) :
    ¬task.Quiet ∧ task.child? = none ∧ step.task.child? = some pid ∧
      step.events = [.spawned pid] := by
  cases h with
  | read hread =>
    obtain ⟨_, hcopied⟩ := Managed.copied_of_mem_read hread hs
    cases hcopied
  | run at_ h =>
    cases h with
    | launched number => simp_all [Quiet, child?]
    | waited number waited => cases waited <;> simp_all [Managed.endOfWait]
    | _ => simp_all
  | _ => simp_all [leave]

/-- A child goes on until the wait for it ends, and that is told. -/
theorem Moved.child_or_end (h : Moved stopping task move step) (hc : task.child? = some pid) :
    step.task.child? = some pid ∨ .reaped pid ∈ step.events ∨ .lost pid ∈ step.events := by
  cases h with
  | read hread => exact .inl hc
  | run at_ h =>
    cases h with
    | announced number => simp_all [child?]
    | waited number waited => cases waited <;> simp_all [child?, Managed.endOfWait]
    | _ => simp_all [child?]
  | _ => simp_all [child?]

/-- Restart loops send no signals. -/
theorem Moved.not_signalled (h : Moved stopping task move step) {signal : Signal} :
    .signalled pid signal ∉ step.events := by
  intro hs
  cases h with
  | read hread =>
    obtain ⟨_, hcopied⟩ := Managed.copied_of_mem_read hread hs
    cases hcopied
  | run at_ h =>
    cases h with
    | waited number waited => cases waited <;> simp_all [Managed.endOfWait]
    | _ => simp_all
  | _ => simp_all [leave]

end Task

end Supervision
