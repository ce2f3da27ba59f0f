import Supervision.Proofs.Restart.Budget
import Mathlib.Data.List.Nodup
import Mathlib.Data.List.Perm.Subperm

/-!
# What a supervisor returns

The results of the loops are collected in whatever order the loops return.  The first failure in
that order is kept and asks for a stop, so when all have been collected the kept failure is what the
whole comes to, and a shutdown that was asked for has been waited for.
-/

namespace Supervision

def Transition.joined? (transition : Transition) : Option Nat :=
  match transition.move with
  | .join index => some index
  | _ => none

def joins (past : List Transition) : List Nat := past.filterMap Transition.joined?

@[simp]
theorem joins_append_singleton (past : List Transition) (transition : Transition) :
    joins (past ++ [transition]) = joins past ++ transition.joined?.toList := by
  cases h : transition.joined? <;> simp [joins, h]

/-- The failure that the loop of a process has returned with. -/
def System.failureOf (system : System) (index : Nat) : Option Failure :=
  match system.phase? index with
  | some (.returned (.error failure)) => some failure
  | _ => none

/-- The collected results are those of loops that have returned, each once; the failure that is kept
is the first among them, and has asked for a stop. -/
structure JoinsSound (past : List Transition) (system : System) : Prop where
  joined_eq : system.joined = joins past
  nodup : system.joined.Nodup
  returned : ∀ index ∈ system.joined, ∃ result, system.phase? index = some (.returned result)
  failure_eq : system.failure = (system.joined.filterMap system.failureOf).head?
  asked : system.failure.isSome = true → system.stopping = true

theorem Task.phase_of_result {task : Task} {result : Except Failure Unit}
    (h : task.result? = some result) : task.phase = .returned result := by
  unfold result? at h
  split at h <;> simp_all

/-- One move keeps it: the failure of a loop that is collected stays if there was none before. -/
theorem JoinsSound.advance {past : List Transition} {system : System} {move : Move}
    {step : SystemStep} (sound : JoinsSound past system)
    (made : system.advance move = some step) :
    JoinsSound (past ++ [⟨system, move, step⟩]) step.system := by
  have hmoved : system.Moved move step := System.moved_of_advance made
  have hkept (index : Nat) (result : Except Failure Unit)
      (h : system.phase? index = some (.returned result)) :
      step.system.phase? index = some (.returned result) :=
    (Execution.ended (Trace.refl.tail move made) h).1
  have hreturned (index : Nat) (h : index ∈ system.joined) :
      ∃ result, step.system.phase? index = some (.returned result) := by
    obtain ⟨result, hphase⟩ := sound.returned index h
    exact ⟨result, hkept index result hphase⟩
  have hfailures : system.joined.filterMap step.system.failureOf =
      system.joined.filterMap system.failureOf := by
    refine List.filterMap_congr fun index hindex ↦ ?_
    obtain ⟨result, hphase⟩ := sound.returned index hindex
    rw [System.failureOf, System.failureOf, hphase, hkept index result hphase]
  have hsame (joined_eq : step.system.joined = system.joined)
      (failure_eq : step.system.failure = system.failure)
      (uncollected : Transition.joined? ⟨system, move, step⟩ = none) :
      JoinsSound (past ++ [⟨system, move, step⟩]) step.system := by
    refine ⟨?_, ?_, ?_, ?_, fun h ↦ hmoved.stopping (sound.asked (failure_eq ▸ h))⟩
    · rw [joined_eq, sound.joined_eq, joins_append_singleton, uncollected]
      exact (List.append_nil _).symm
    · rw [joined_eq]
      exact sound.nodup
    · rw [joined_eq]
      exact hreturned
    · rw [failure_eq, joined_eq, hfailures]
      exact sound.failure_eq
  have hnodup {index : Nat} (fresh : index ∉ system.joined) :
      (system.joined ++ [index]).Nodup := by
    rw [← List.concat_eq_append]
    exact sound.nodup.concat fresh
  have hlast {index : Nat} {result : Except Failure Unit}
      (hphase : step.system.phase? index = some (.returned result)) :
      ∀ other ∈ system.joined ++ [index], ∃ result,
        step.system.phase? other = some (.returned result) := by
    intro other hother
    rcases List.mem_append.mp hother with h | h
    · exact hreturned other h
    · rw [List.mem_singleton.mp h]
      exact ⟨result, hphase⟩
  cases hmoved with
  | @joined index task present result fresh =>
    have hphase : system.phase? index = some (.returned (.ok ())) := by
      rw [System.phase?, present, Option.map_some, Task.phase_of_result result]
    have hnone : system.failureOf index = none := by rw [System.failureOf, hphase]
    refine ⟨?_, hnodup fresh, hlast hphase, ?_, sound.asked⟩
    · rw [joins_append_singleton, ← sound.joined_eq]
      rfl
    · have hfailures : [index].filterMap system.failureOf = [] := by simp [hnone]
      calc
        system.failure = (system.joined.filterMap system.failureOf).head? := sound.failure_eq
        _ = ((system.joined ++ [index]).filterMap system.failureOf).head? := by
          rw [List.filterMap_append, hfailures, List.append_nil]
  | @joinedFailed index task failure present result fresh =>
    have hphase : system.phase? index = some (.returned (.error failure)) := by
      rw [System.phase?, present, Option.map_some, Task.phase_of_result result]
    have hsome : system.failureOf index = some failure := by rw [System.failureOf, hphase]
    refine ⟨?_, hnodup fresh, hlast hphase, ?_, fun _ ↦ rfl⟩
    · rw [joins_append_singleton, ← sound.joined_eq]
      rfl
    · have hfailures : [index].filterMap system.failureOf = [failure] := by simp [hsome]
      calc
        some (system.failure.getD failure) =
            some ((system.joined.filterMap system.failureOf).head?.getD failure) := by
          rw [sound.failure_eq]
        _ = (system.joined.filterMap system.failureOf ++ [failure]).head? := by
          cases system.joined.filterMap system.failureOf <;> rfl
        _ = ((system.joined ++ [index]).filterMap system.failureOf).head? := by
          rw [List.filterMap_append, hfailures]
  | _ => exact hsame rfl rfl rfl

theorem Execution.joinsSound {supervisor : Supervisor} {past : List Transition} {system : System}
    (run : Execution (.ofSupervisor supervisor) past system) : JoinsSound past system := by
  induction run with
  | refl => exact ⟨rfl, List.nodup_nil, fun _ h ↦ (List.not_mem_nil h).elim, rfl, nofun⟩
  | tail _ move made ih => exact ih.advance made

/-- When as many results have been collected as there are loops, every loop has returned, for those
that were collected are distinct and so none is missing. -/
theorem JoinsSound.mem_joined {past : List Transition} {system : System} {index : Nat}
    (sound : JoinsSound past system) (all : system.joined.length = system.tasks.length)
    (hindex : index < system.tasks.length) : index ∈ system.joined := by
  have hsubset : system.joined ⊆ List.range system.tasks.length := by
    intro other hother
    obtain ⟨result, hphase⟩ := sound.returned other hother
    obtain ⟨task, present, _⟩ := Option.map_eq_some_iff.mp hphase
    obtain ⟨hlt, _⟩ := List.getElem?_eq_some_iff.mp present
    exact List.mem_range.mpr hlt
  have hlength : (List.range system.tasks.length).length ≤ system.joined.length := by
    rw [List.length_range]
    exact Nat.le_of_eq all.symm
  have hperm : system.joined.Perm (List.range system.tasks.length) :=
    (List.subperm_of_subset sound.nodup hsubset).perm_of_length_le hlength
  exact hperm.mem_iff.mpr (List.mem_range.mpr hindex)

/-- What holds when the whole returns with a result. -/
structure ReturnSound (supervisor : Supervisor) (past : List Transition) (system : System)
    (result : Except Failure Unit) : Prop where
  /-- Every loop has returned and left its process terminal, without a number; every child that was
  started has been reaped, unless waiting for it failed. -/
  settled : ∀ index managed, supervisor.processes[index]? = some managed →
    ∃ task own, system.tasks[index]? = some task ∧ task.phase = .returned own ∧
      task.managed.state = .terminal ∧ task.managed.pid = none ∧
        ∀ earlier pid later, eventsOf index past = earlier ++ .spawned pid :: later →
          .reaped pid ∈ later ∨ .lost pid ∈ later
  /-- The result is good if that of every loop is. -/
  ok_iff : result = .ok () ↔
    ∀ index < supervisor.processes.length, system.phase? index = some (.returned (.ok ()))
  /-- A failure is that of the first loop to be collected among those that have failed. -/
  error_iff : ∀ failure, result = .error failure ↔ ∃ earlier index later,
    joins past = earlier ++ index :: later ∧
      system.phase? index = some (.returned (.error failure)) ∧
        ∀ other ∈ earlier, system.phase? other = some (.returned (.ok ()))
  /-- If a loop has failed or a stop was asked for, the shutdown is through with all its calls. -/
  shut_down : (∃ index failure, system.phase? index = some (.returned (.error failure))) ∨
    (∃ transition ∈ past, transition.step.system.stopping = true) →
      system.shutdown = .finished ∧
        calls past = (List.range supervisor.processes.length).map .interrupt ++
          (List.range supervisor.processes.length).map .kill

theorem System.failureOf_eq_some_iff {system : System} {index : Nat} {failure : Failure} :
    system.failureOf index = some failure ↔
      system.phase? index = some (.returned (.error failure)) := by
  unfold failureOf
  split <;> simp_all

/-- A loop that was collected without a failure has succeeded. -/
theorem JoinsSound.failureOf_eq_none_iff {past : List Transition} {system : System} {index : Nat}
    (sound : JoinsSound past system) (collected : index ∈ system.joined) :
    system.failureOf index = none ↔ system.phase? index = some (.returned (.ok ())) := by
  obtain ⟨result, hphase⟩ := sound.returned index collected
  unfold System.failureOf
  rw [hphase]
  cases result <;> simp

/-- Once a failed loop has been collected, a stop is asked for. -/
theorem JoinsSound.stopping_of_failed {past : List Transition} {system : System} {index : Nat}
    {failure : Failure} (sound : JoinsSound past system) (collected : index ∈ system.joined)
    (failed : system.phase? index = some (.returned (.error failure))) :
    system.stopping = true := by
  apply sound.asked
  rw [sound.failure_eq]
  have hmem : failure ∈ system.joined.filterMap system.failureOf :=
    List.mem_filterMap.mpr ⟨index, collected, System.failureOf_eq_some_iff.mpr failed⟩
  cases hfailures : system.joined.filterMap system.failureOf with
  | nil =>
    rw [hfailures] at hmem
    cases hmem
  | cons first rest => rfl

/-- The whole returns when every loop was collected and the shutdown, if one was asked for, is
through. -/
theorem System.Moved.finish {system : System} {step : SystemStep} (h : system.Moved .finish step) :
    system.joined.length = system.tasks.length ∧ step.system.tasks = system.tasks ∧
      step.system.result = some system.outcome ∧
        (system.stopping = true → system.shutdown = .finished ∧
          step.system.shutdown = .finished) := by
  cases h with
  | finishedUnstopped all first unstopped =>
    refine ⟨all, rfl, rfl, fun h ↦ ?_⟩
    rw [unstopped] at h
    cases h
  | finishedStopped all first stopping at_ => exact ⟨all, rfl, rfl, fun _ ↦ ⟨at_, at_⟩⟩

theorem System.outcome_eq_ok_iff {system : System} :
    system.outcome = .ok () ↔ system.failure = none := by
  unfold outcome
  cases system.failure <;> simp

theorem System.outcome_eq_error_iff {system : System} {failure : Failure} :
    system.outcome = .error failure ↔ system.failure = some failure := by
  unfold outcome
  cases system.failure <;> simp

section

variable {supervisor : Supervisor} {past : List Transition} {system : System}
  (run : Execution (.ofSupervisor supervisor) past system)

include run

/-- The whole succeeds if every loop has. -/
theorem Execution.outcome_eq_ok_iff (all : system.joined.length = system.tasks.length) :
    system.outcome = .ok () ↔
      ∀ index < supervisor.processes.length, system.phase? index = some (.returned (.ok ())) := by
  have sound := run.joinsSound
  have hlength := run.callsSound.length_tasks
  rw [System.outcome_eq_ok_iff, sound.failure_eq, List.head?_eq_none_iff,
    List.filterMap_eq_nil_iff, ← hlength]
  constructor
  · intro hnone index hindex
    have collected := sound.mem_joined all hindex
    exact (sound.failureOf_eq_none_iff collected).mp (hnone index collected)
  · intro hok index collected
    apply (sound.failureOf_eq_none_iff collected).mpr
    apply hok
    obtain ⟨_, hphase⟩ := sound.returned index collected
    obtain ⟨_, present, _⟩ := Option.map_eq_some_iff.mp hphase
    exact (List.getElem?_eq_some_iff.mp present).1

/-- The whole fails as the first of the collected loops that failed. -/
theorem Execution.outcome_eq_error_iff (failure : Failure) :
    system.outcome = .error failure ↔ ∃ earlier index later,
      joins past = earlier ++ index :: later ∧
        system.phase? index = some (.returned (.error failure)) ∧
          ∀ other ∈ earlier, system.phase? other = some (.returned (.ok ())) := by
  have sound := run.joinsSound
  rw [System.outcome_eq_error_iff, sound.failure_eq, List.head?_filterMap,
    List.findSome?_eq_some_iff]
  have hmem {earlier later : List Nat} {index other : Nat}
      (hsplit : system.joined = earlier ++ index :: later) (hother : other ∈ earlier) :
      other ∈ system.joined := by
    rw [hsplit]
    exact List.mem_append_left _ hother
  rw [← sound.joined_eq]
  constructor
  · rintro ⟨earlier, index, later, hsplit, hfailure, hnone⟩
    refine ⟨earlier, index, later, hsplit, System.failureOf_eq_some_iff.mp hfailure, ?_⟩
    intro other hother
    exact (sound.failureOf_eq_none_iff (hmem hsplit hother)).mp (hnone other hother)
  · rintro ⟨earlier, index, later, hsplit, hfailure, hok⟩
    refine ⟨earlier, index, later, hsplit, System.failureOf_eq_some_iff.mpr hfailure, ?_⟩
    intro other hother
    exact (sound.failureOf_eq_none_iff (hmem hsplit hother)).mpr (hok other hother)

/-- A stop that was asked for at some time is asked for still. -/
theorem Execution.stopping_of_mem {transition : Transition} (h : transition ∈ past)
    (asked : transition.step.system.stopping = true) : system.stopping = true := by
  obtain ⟨_, _, _, _, _, rest⟩ := run.split_of_mem h
  exact Execution.stopping rest asked

end

/-- When the whole returns, every loop has returned and left nothing behind, the result is that of
the first failure if there is one, and the shutdown is through unless no stop was asked for. -/
theorem run_returns {supervisor : Supervisor} {past : List Transition} {system : System}
    {step : SystemStep} (assembled : supervisor.Assembled)
    (run : Execution (.ofSupervisor supervisor) past system)
    (made : system.advance .finish = some step) :
    ∃ result, step.system.result = some result ∧
      ReturnSound supervisor past step.system result := by
  obtain ⟨all, htasks, hresult, hfinished⟩ := (System.moved_of_advance made).finish
  have sound := run.joinsSound
  have hlength := run.callsSound.length_tasks
  have hphase (index : Nat) : step.system.phase? index = system.phase? index := by
    rw [System.phase?, System.phase?, htasks]
  refine ⟨system.outcome, hresult, ?_⟩
  constructor
  case settled =>
    intro index managed registered
    obtain ⟨hindex, _⟩ := List.getElem?_eq_some_iff.mp registered
    obtain ⟨own, hown⟩ := sound.returned index (sound.mem_joined all (hlength ▸ hindex))
    obtain ⟨task, present, hsound, _, children⟩ := run.childrenSound assembled registered
    have at_ : task.phase = .returned own := by simpa [System.phase?, present] using hown
    have hchild : task.child? = none := by
      unfold Task.child?
      rw [at_]
    unfold Task.Sound at hsound
    rw [at_] at hsound
    refine ⟨task, own, htasks ▸ present, at_, hsound.2, hsound.1, ?_⟩
    intro earlier pid later hsplit
    rcases children earlier pid later hsplit with hreaped | hlost | ⟨hrunning, _⟩
    · exact .inl hreaped
    · exact .inr hlost
    · rw [hchild] at hrunning
      cases hrunning
  case ok_iff =>
    rw [run.outcome_eq_ok_iff all]
    simp only [hphase]
  case error_iff =>
    intro failure
    rw [run.outcome_eq_error_iff failure]
    simp only [hphase]
  case shut_down =>
    intro hstop
    have hasked : system.stopping = true := by
      rcases hstop with ⟨index, failure, hfailed⟩ | ⟨transition, htransition, hasked⟩
      · rw [hphase] at hfailed
        obtain ⟨_, present, _⟩ := Option.map_eq_some_iff.mp hfailed
        obtain ⟨hindex, _⟩ := List.getElem?_eq_some_iff.mp present
        exact sound.stopping_of_failed (sound.mem_joined all hindex) hfailed
      · exact run.stopping_of_mem htransition hasked
    obtain ⟨hbefore, hafter⟩ := hfinished hasked
    refine ⟨hafter, ?_⟩
    rw [run.callsSound.calls_eq, hbefore]
    rfl

/-- A process that cannot be started takes the other one with it, and its failure is returned. -/
theorem run_returns_failure :
    ∃ past system step result,
      Execution (.ofSupervisor (.ofSpecs [.sleeper .terminate .never, .sleeper .quit .never]))
        past system ∧ system.advance .finish = some step ∧ step.system.result = some result ∧
          result = .error (.channel "no") ∧ step.system.shutdown = .finished := by
  have run := Trace.of_follow (show
    (System.ofSupervisor
      (.ofSpecs [.sleeper .terminate .never, .sleeper .quit .never])).follow
      (Move.start 0 7 ++
        [.task 1 (.run (.openChannel (.error (.channel "no")))), .task 1 .settle, .join 1,
          .beginShutdown, .interrupt (.ok ()), .interrupt (.ok ()), .interrupted] ++
        Move.exit 0 (.signalled 15) ++
        [.stopped, .stopped, .stopped, .kill (.ok ()), .kill (.ok ()), .killed, .task 0 .settle,
          .task 0 .check, .join 0]) = some (_, _) from rfl)
  obtain ⟨result, hresult, returned⟩ := run_returns (Supervisor.assembled_ofSpecs _) run rfl
  refine ⟨_, _, _, result, run, rfl, hresult, ?_, ?_⟩
  · exact (returned.error_iff _).mpr ⟨[], 1, [0], rfl, rfl, nofun⟩
  · exact (returned.shut_down (.inl ⟨1, _, rfl⟩)).1

end Supervision
