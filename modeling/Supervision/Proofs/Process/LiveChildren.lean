import Supervision.Proofs.Process.Threads

/-!
# Signals and live children

A signal goes to the child that was started last, however the threads are interleaved.  When the
wait for a child ends, the child has been reaped, and its number is forgotten in a move of its own;
a signal that comes between the two goes to a number that may be another's by then.  At all other
times the child that is sent a signal has not been reaped.
-/

namespace Supervision

/-- The child of this number was started, and has not been reaped since. -/
def Alive (pid : UInt32) (events : List Event) : Prop :=
  ∃ front back, events = front ++ .spawned pid :: back ∧ .reaped pid ∉ back

theorem not_alive_reaped (pid : UInt32) (events : List Event) :
    ¬Alive pid (events ++ [.reaped pid]) := by
  rintro ⟨front, back, hsplit, hnot⟩
  rcases List.eq_nil_or_concat back with rfl | ⟨rest, last, rfl⟩
  · cases (List.append_inj' hsplit rfl).2
  · rw [List.concat_eq_append, ← List.cons_append, ← List.append_assoc] at hsplit
    cases (List.append_inj' hsplit rfl).2
    exact hnot (by simp)

/-- The child that was started last has this number, and was reaped or was not. -/
def LastChild (pid : UInt32) (reaped : Prop) (events : List Event) : Prop :=
  ∃ front back, events = front ++ .spawned pid :: back ∧ (∀ other, .spawned other ∉ back) ∧
    (.reaped pid ∈ back ↔ reaped)

namespace LastChild

variable {pid : UInt32} {reaped : Prop} {events more : List Event}

/-- What has to do with no child makes no difference. -/
theorem append (h : LastChild pid reaped events) (unspawned : ∀ other, .spawned other ∉ more)
    (unreaped : ∀ other, .reaped other ∉ more) : LastChild pid reaped (events ++ more) := by
  obtain ⟨front, back, rfl, hlast, hreaped⟩ := h
  refine ⟨front, back ++ more, by simp, fun other hother ↦ ?_, ?_⟩
  · exact (List.mem_append.mp hother).elim (hlast other) (unspawned other)
  · simp [hreaped, unreaped]

/-- Only a wait that succeeds reaps the child. -/
theorem reap (h : LastChild pid False events) (waited : Waited) :
    LastChild pid (∃ status, waited = .ok status)
      (events ++ [Managed.endOfWait pid waited]) := by
  obtain ⟨front, back, rfl, hlast, hreaped⟩ := h
  refine ⟨front, back ++ [Managed.endOfWait pid waited], by simp, ?_, ?_⟩
  · cases waited <;> simp [hlast, Managed.endOfWait]
  · cases waited <;> simp [hreaped, Managed.endOfWait]

/-- The child that was started last is alive as long as it was not reaped, even if an earlier child had
its number. -/
theorem alive_iff (h : LastChild pid reaped events) : Alive pid events ↔ ¬reaped := by
  obtain ⟨front, back, rfl, hlast, hreaped⟩ := h
  rw [← hreaped]
  refine ⟨?_, fun hnot ↦ ⟨front, back, rfl, hnot⟩⟩
  rintro ⟨first, rest, hsplit, hnot⟩ hmem
  rcases List.append_eq_append_iff.mp hsplit with ⟨between, _, hback⟩ | ⟨between, _, hrest⟩
  · cases between with
    | nil =>
      obtain rfl := (List.cons.inj hback).2
      exact hnot hmem
    | cons event between =>
      have hlater := (List.cons.inj hback).2
      exact hlast pid (by simp [hlater])
  · cases between with
    | nil =>
      obtain rfl := (List.cons.inj hrest).2
      exact hnot hmem
    | cons event between =>
      have hlater := (List.cons.inj hrest).2
      exact hnot (by simp [hlater, hmem])

end LastChild

/-! ## The recorded child -/

/-- What is recorded of a child is the child that was started last. -/
def Task.Tracks (task : Task) (events : List Event) : Prop :=
  match task.phase with
  | .running (.recorded pid) | .running (.waiting pid) =>
    task.managed.pid = some pid ∧ LastChild pid False events
  | .running (.reaped waited) =>
    ∃ pid, task.managed.pid = some pid ∧ LastChild pid (∃ status, waited = .ok status) events
  | _ => task.managed.pid = none

namespace Task

variable {stopping : Bool} {task : Task} {move : TaskMove} {step : TaskStep}
  {events more : List Event}

theorem Tracks.append (tracks : task.Tracks events) (unspawned : ∀ other, .spawned other ∉ more)
    (unreaped : ∀ other, .reaped other ∉ more) : task.Tracks (events ++ more) := by
  unfold Tracks at tracks ⊢
  split at tracks
  · exact ⟨tracks.1, tracks.2.append unspawned unreaped⟩
  · exact ⟨tracks.1, tracks.2.append unspawned unreaped⟩
  · obtain ⟨pid, hpid, hlast⟩ := tracks
    exact ⟨pid, hpid, hlast.append unspawned unreaped⟩
  · exact tracks

/-- A child is recorded from its start until its wait has ended. -/
theorem Moved.tracks (h : Moved stopping task move step)
    (own : ∀ run result, move ≠ .read run result) (tracks : task.Tracks events) :
    step.task.Tracks (events ++ step.events) := by
  cases h with
  | read hread => exact absurd rfl (own _ _)
  | run at_ h =>
    unfold Tracks at tracks
    rw [at_] at tracks
    cases h with
    | launched pid => exact ⟨rfl, events, [], rfl, by simp, by simp⟩
    | announced pid => exact ⟨tracks.1, tracks.2.append (by simp) (by simp)⟩
    | waited pid waited => exact ⟨pid, tracks.1, tracks.2.reap waited⟩
    | cleared waited => rfl
    | _ => exact tracks
  | succeeded at_ | failed at_ | failedOnce at_ | stopped at_ | unstopped at_ | done at_
  | exhausted at_ | retried at_ | woken at_ | cancelled at_ =>
    unfold Tracks at tracks
    rw [at_] at tracks
    exact tracks

/-- A recorded child that signals can be sent to has been reaped only if the wait for it has just
ended. -/
theorem Tracks.lastChild {pid : UInt32} (tracks : task.Tracks events)
    (free : task.holdsLock = false) (recorded : task.managed.pid = some pid) :
    LastChild pid (∃ status, task.phase = .running (.reaped (.ok status))) events := by
  unfold Tracks at tracks
  unfold holdsLock at free
  split at tracks
  · rename_i hphase
    simp [hphase, RunPhase.holdsLock] at free
  · rename_i hphase
    obtain ⟨hpid, hlast⟩ := tracks
    obtain rfl := Option.some.inj (hpid.symm.trans recorded)
    simpa [hphase] using hlast
  · rename_i hphase
    obtain ⟨number, hpid, hlast⟩ := tracks
    obtain rfl := Option.some.inj (hpid.symm.trans recorded)
    simpa [hphase] using hlast
  · simp [tracks] at recorded

end Task

namespace Threads

variable {threads : Threads} {move : ThreadMove} {step : ThreadStep} {events : List Event}

theorem Moved.tracks (h : Moved threads move step) (tracks : threads.task.Tracks events) :
    step.threads.task.Tracks (events ++ step.events) := by
  have hsignal (notice : Notice) (signal : Signal) (sent : Except Failure Unit) :
      threads.task.Tracks (events ++ threads.task.managed.signal notice signal sent) := by
    refine tracks.append (fun pid h ↦ ?_) fun pid h ↦ ?_
    · cases Managed.tells_of_mem_signal h
    · cases Managed.tells_of_mem_signal h
  cases h with
  | task moved own => exact moved.tracks own tracks
  | interrupted sent free | killed sent free => exact hsignal _ _ _
  | read result idle present reading | settled at_ =>
    rw [List.append_nil]
    exact tracks
  | wrote at_ => exact tracks.append (by simp) (by simp)

/-- Signals are sent by calls, under the lock, to the recorded child. -/
theorem Moved.recorded_of_signalled {pid : UInt32} {signal : Signal} (h : Moved threads move step)
    (signalled : .signalled pid signal ∈ step.events) :
    threads.task.holdsLock = false ∧ threads.task.managed.pid = some pid := by
  cases h with
  | task moved own => exact absurd signalled moved.not_signalled
  | interrupted sent free | killed sent free =>
    cases Managed.tells_of_mem_signal signalled with
    | signalled recorded => exact ⟨free, recorded⟩
  | _ => simp at signalled

theorem Execution.tracks {managed : Managed} (fresh : managed.Fresh)
    {past : List ThreadTransition} (run : Execution (.start managed) past threads) :
    threads.task.Tracks (threadEvents past) := by
  induction run with
  | refl =>
    obtain ⟨spec, color, kind, rfl⟩ := fresh
    rfl
  | tail run move made ih =>
    rw [threadEvents_append, threadEvents_singleton]
    exact (moved_of_advance made).tracks ih

end Threads

/-! ## Signals -/

/-- Which child a signal reaches. -/
structure SignalReachesChild (earlier : List ThreadTransition) (task : Task) (pid : UInt32) :
    Prop where
  /-- It was started, and no other was started after it. -/
  latest : ∃ front back, threadEvents earlier = front ++ .spawned pid :: back ∧
    ∀ other, .spawned other ∉ back
  /-- It is alive, unless the wait for it has ended and its number was not forgotten yet. -/
  alive_iff : Alive pid (threadEvents earlier) ↔
    ¬∃ status, task.phase = .running (.reaped (.ok status))

/-- Every signal that is sent reaches the child that was started last. -/
theorem signals_reach_children {managed : Managed} (fresh : managed.Fresh)
    {earlier later : List ThreadTransition} {transition : ThreadTransition} {threads : Threads}
    (execution : Threads.Execution (.start managed) (earlier ++ transition :: later) threads)
    {pid : UInt32} {signal : Signal} (signalled : .signalled pid signal ∈ transition.step.events) :
    SignalReachesChild earlier transition.before.task pid := by
  obtain ⟨before, made, _⟩ := execution.split
  obtain ⟨free, recorded⟩ := (Threads.moved_of_advance made).recorded_of_signalled signalled
  have hlast := (Threads.Execution.tracks fresh before).lastChild free recorded
  refine ⟨?_, hlast.alive_iff⟩
  obtain ⟨front, back, hevents, hlater, _⟩ := hlast
  exact ⟨front, back, hevents, hlater⟩

/-- A child that is waited for is interrupted. -/
theorem signals_reach_children_sleeper :
    ∃ earlier transition threads,
      Threads.Execution (.start (.ofSpec (.sleeper .terminate .never) 0 .pipe))
        (earlier ++ [transition]) threads ∧
      .signalled 7 .terminate ∈ transition.step.events ∧
        SignalReachesChild earlier transition.before.task 7 := by
  have waits := Trace.of_follow (show
    Threads.follow (.start (.ofSpec (.sleeper .terminate .never) 0 .pipe)) ThreadMove.opening =
      some (_, _) from rfl)
  have execution := waits.tail (.interrupt (.ok ())) rfl
  have hsignalled : Event.signalled 7 .terminate ∈
      [.wrote (.stopping .terminate), .signalled 7 .terminate] := by simp
  exact ⟨_, _, _, execution, hsignalled, signals_reach_children ⟨_, _, _, rfl⟩ execution hsignalled⟩

/-- A child has been reaped, its number is not forgotten yet, and it is sent a signal. -/
theorem signal_after_reaping :
    ∃ earlier transition threads,
      Threads.Execution (.start (.ofSpec (.sleeper .terminate .never) 0 .pipe))
        (earlier ++ [transition]) threads ∧
      .signalled 7 .terminate ∈ transition.step.events ∧ ¬Alive 7 (threadEvents earlier) := by
  have waits := Trace.of_follow (show
    Threads.follow (.start (.ofSpec (.sleeper .terminate .never) 0 .pipe)) ThreadMove.opening =
      some (_, _) from rfl)
  have reaps := waits.tail (.task false (.run (.reap (.ok (.exited 0))))) rfl
  have execution := reaps.tail (.interrupt (.ok ())) rfl
  have hsignalled : Event.signalled 7 .terminate ∈
      [.wrote (.stopping .terminate), .signalled 7 .terminate] := by simp
  refine ⟨_, _, _, execution, hsignalled, ?_⟩
  rw [threadEvents_append, threadEvents_singleton]
  exact not_alive_reaped 7 _

end Supervision
