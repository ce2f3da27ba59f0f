import Supervision.Proofs.Shutdown.Escape

/-!
# The two phases of a shutdown

Every process is interrupted before any is killed, and no call is made twice.  A process that was
seen not to run after its interrupt has no child and gets none, so the second phase finds children
only if the grace period ran out.  The first phase sends what is configured, be it the signal of the
second.
-/

namespace Supervision

/-- How many processes, from the first, a shutdown that has come so far has waited for, as long as
the grace period is not over. -/
def waitedUpTo (count : Nat) : ShutdownPhase → Nat
  | .awaiting next => next
  | .killing _ | .finished => count
  | .idle | .interrupting _ | .abandoned => 0

/-- Processes are waited for only after all of them have been interrupted. -/
theorem interrupt_mem_of_waited {count index : Nat} {phase : ShutdownPhase} (hindex : index < count)
    (waited : index < waitedUpTo count phase) : .interrupt index ∈ callsUpTo count phase := by
  have hmem : ShutdownCall.interrupt index ∈ (List.range count).map ShutdownCall.interrupt :=
    List.mem_map.mpr ⟨index, List.mem_range.mpr hindex, rfl⟩
  cases phase with
  | awaiting next => exact hmem
  | killing next | finished => exact List.mem_append_left _ hmem
  | idle | interrupting next | abandoned => exact absurd waited (Nat.not_lt_zero index)

/-- A process that has been waited for was waited for before, or was just seen not to run. -/
theorem System.Moved.waited {system : System} {move : Move} {step : SystemStep} {index : Nat}
    (h : system.Moved move step) (unexpired : move ≠ .expire)
    (hindex : index < system.tasks.length)
    (waited : index < waitedUpTo system.tasks.length step.system.shutdown) :
    .interrupt index ∈ callsUpTo system.tasks.length system.shutdown ∧
      (index < waitedUpTo system.tasks.length system.shutdown ∨
        ∃ task, system.tasks[index]? = some task ∧ task.managed.state ≠ .running) := by
  have hbefore (h : index < waitedUpTo system.tasks.length system.shutdown) :
      .interrupt index ∈ callsUpTo system.tasks.length system.shutdown ∧
        (index < waitedUpTo system.tasks.length system.shutdown ∨
          ∃ task, system.tasks[index]? = some task ∧ task.managed.state ≠ .running) :=
    ⟨interrupt_mem_of_waited hindex h, .inl h⟩
  cases h with
  | task | asked | joined | joinedFailed | finishedStopped => exact hbefore waited
  | began | interrupted | interruptedAll | finishedUnstopped =>
    exact absurd waited (Nat.not_lt_zero index)
  | @foundStopped next task at_ present stopped =>
    rcases Nat.lt_succ_iff_lt_or_eq.mp waited with hlt | rfl
    · refine hbefore ?_
      rw [at_]
      exact hlt
    · refine ⟨?_, .inr ⟨task, present, stopped⟩⟩
      rw [at_]
      exact List.mem_map.mpr ⟨index, List.mem_range.mpr hindex, rfl⟩
  | @foundAllStopped next at_ absent =>
    refine hbefore ?_
    rw [at_]
    exact Nat.lt_of_lt_of_le hindex (List.getElem?_eq_none_iff.mp absent)
  | expired => exact absurd rfl unexpired
  | killed sent at_ | killedAll at_ =>
    refine hbefore ?_
    rw [at_]
    exact hindex

theorem Transition.shutdown_of_kill {transition : Transition} {index : Nat}
    (called : transition.call? = some (.kill index)) :
    transition.before.shutdown = .killing index := by
  unfold call? at called
  split at called <;> simp_all

theorem Transition.shutdown_of_interrupt {transition : Transition} {index : Nat}
    (called : transition.call? = some (.interrupt index)) :
    transition.before.shutdown = .interrupting index := by
  unfold call? at called
  split at called <;> simp_all

/-- When a process is interrupted, none has been killed yet. -/
theorem Execution.recordedAt_kill_or_interrupt {supervisor : Supervisor} {past : List Transition}
    (transition : Transition) (run : Execution (.ofSupervisor supervisor) past transition.before)
    (index : Nat) :
    recordedAt (.kill index) past = [] ∨ recordedAt (.interrupt index) [transition] = [] := by
  by_cases hcall : transition.call? = some (.interrupt index)
  · refine .inl (recordedAt_eq_nil ?_)
    rw [run.callsSound.calls_eq, Transition.shutdown_of_interrupt hcall]
    simp [callsUpTo]
  · right
    rw [recordedAt_singleton, if_neg hcall]

/-- A transition sends a process what its call says, if it is a call on this process. -/
theorem Execution.signals_of_transition {supervisor : Supervisor} {past : List Transition}
    {transition : Transition} {index : Nat} {managed : Managed} (assembled : supervisor.Assembled)
    (run : Execution (.ofSupervisor supervisor) past transition.before)
    (made : transition.before.advance transition.move = some transition.step)
    (registered : supervisor.processes[index]? = some managed) :
    (signalsIn transition.step.occurrences).filter (fun sent ↦ sent.1 = index) =
      (recordedAt (.interrupt index) [transition]).map
          (fun pid ↦ (index, pid, managed.spec.stopSignal)) ++
        (recordedAt (.kill index) [transition]).map fun pid ↦ (index, pid, .kill) := by
  rw [recordedAt_singleton, recordedAt_singleton]
  cases hcall : transition.call? with
  | none => simp [Transition.signals_of_no_call made hcall]
  | some call =>
    by_cases hindex : call.index = index
    · subst hindex
      have hfilter (pids : List UInt32) (signal : Signal) :
          (pids.map fun pid ↦ (call.index, pid, signal)).filter
            (fun sent ↦ sent.1 = call.index) = pids.map fun pid ↦ (call.index, pid, signal) :=
        List.filter_eq_self.mpr (by simp)
      rw [run.signals_of_call assembled made hcall registered, hfilter]
      cases call <;> simp [ShutdownCall.index, ShutdownCall.signal]
    · have hother : (signalsIn transition.step.occurrences).filter
          (fun sent ↦ sent.1 = index) = [] := by
        refine List.filter_eq_nil_iff.mpr ?_
        rintro ⟨other, pid, signal⟩ hsent
        obtain ⟨_, hcalled, rfl, _⟩ := Transition.recorded_of_signal made hsent
        obtain rfl := Option.some.inj (hcall.symm.trans hcalled)
        simpa using hindex
      have hinterrupt : some call ≠ some (.interrupt index) := by
        rintro ⟨⟩
        exact hindex rfl
      have hkill : some call ≠ some (.kill index) := by
        rintro ⟨⟩
        exact hindex rfl
      rw [hother, if_neg hinterrupt, if_neg hkill]
      rfl

section

variable {supervisor : Supervisor} {past : List Transition} {system : System}
  (assembled : supervisor.Assembled) (run : Execution (.ofSupervisor supervisor) past system)

include assembled run

/-- A process that has been waited for in time has no child.  It has been interrupted by then, so none
is put on record later. -/
theorem Execution.pid_eq_none_of_waited {index : Nat} {managed : Managed}
    (registered : supervisor.processes[index]? = some managed)
    (unexpired : ∀ transition ∈ past, transition.move ≠ .expire)
    (waited : index < waitedUpTo supervisor.processes.length system.shutdown) :
    system.pid? index = none := by
  have key : ∃ task, system.tasks[index]? = some task ∧
      ((∀ transition ∈ past, transition.move ≠ .expire) →
        index < waitedUpTo supervisor.processes.length system.shutdown →
          task.managed.pid = none) := by
    refine run.process_induction
      (motive := fun past system task ↦ (∀ transition ∈ past, transition.move ≠ .expire) →
        index < waitedUpTo supervisor.processes.length system.shutdown → task.managed.pid = none)
      (System.tasks_ofSupervisor registered) (fun _ h ↦ absurd h (Nat.not_lt_zero index)) ?_
    intro past transition task after before made present seen ih hunexpired hwaited
    obtain ⟨hlength, _, hcalls⟩ := before.callsSound
    obtain ⟨hindex, _⟩ := List.getElem?_eq_some_iff.mp present
    have hmove : transition.move ≠ .expire := hunexpired transition (by simp)
    obtain ⟨hinterrupted, hseen⟩ :=
      (System.moved_of_advance made).waited hmove hindex (hlength ▸ hwaited)
    rw [hlength, ← hcalls] at hinterrupted
    have hquiet : task.Quiet := before.quiet_at hinterrupted present
    refine seen.pid_eq_none hquiet ?_
    rcases hseen with hwaited | ⟨_, hfound, hstopped⟩
    · exact ih (fun earlier h ↦ hunexpired earlier (List.mem_append_left _ h)) (hlength ▸ hwaited)
    · obtain rfl := Option.some.inj (present.symm.trans hfound)
      obtain ⟨sound, _⟩ := before.sound_at assembled registered present
      exact sound.pid_eq_none hquiet hstopped
  obtain ⟨task, present, hpid⟩ := key
  rw [System.pid?, present]
  exact hpid unexpired waited

/-- As long as the grace period is not over, no child is recorded when its process is killed. -/
theorem Execution.recordedAt_kill_eq_nil (index : Nat)
    (unexpired : ∀ transition ∈ past, transition.move ≠ .expire) :
    recordedAt (.kill index) past = [] := by
  refine List.flatMap_eq_nil_iff.mpr fun transition htransition ↦ ?_
  split
  case isFalse => rfl
  case isTrue hcall =>
    obtain ⟨earlier, later, rfl, before, made, _⟩ := run.split_of_mem htransition
    obtain ⟨_, present, _⟩ := Transition.signals_of_call made hcall
    obtain ⟨hlt, _⟩ := List.getElem?_eq_some_iff.mp present
    have hindex : index < supervisor.processes.length :=
      (Execution.callsSound before).length_tasks ▸ hlt
    have hwaited : index < waitedUpTo supervisor.processes.length transition.before.shutdown := by
      rw [Transition.shutdown_of_kill hcall]
      exact hindex
    have hpid : transition.before.pid? index = none :=
      Execution.pid_eq_none_of_waited assembled before (List.getElem?_eq_getElem hindex)
        (fun other h ↦ unexpired other (List.mem_append_left _ h)) hwaited
    exact congrArg Option.toList hpid

/-- The signals to a process are its stop signal, to the child that is recorded at its interrupt,
and then SIGKILL, to the child that is recorded at its kill. -/
theorem Execution.signals_eq {index : Nat} {managed : Managed}
    (registered : supervisor.processes[index]? = some managed) :
    (signals past).filter (fun sent ↦ sent.1 = index) =
      (recordedAt (.interrupt index) past).map (fun pid ↦ (index, pid, managed.spec.stopSignal)) ++
        (recordedAt (.kill index) past).map fun pid ↦ (index, pid, .kill) := by
  induction run with
  | refl => rfl
  | @tail past system run move step made ih =>
    have hsent :=
      @Execution.signals_of_transition _ _ ⟨system, move, step⟩ _ _ assembled run made registered
    rw [signals_append, List.filter_append, ih, signals_singleton, recordedAt_append,
      recordedAt_append, hsent]
    rcases Execution.recordedAt_kill_or_interrupt ⟨system, move, step⟩ run index with
      hkill | hinterrupt
    · simp [hkill]
    · simp [hinterrupt]

/-- A SIGKILL before the grace period is over is a configured stop signal. -/
theorem Execution.stopSignal_of_kill {index : Nat} {pid : UInt32}
    (unexpired : ∀ transition ∈ past, transition.move ≠ .expire)
    (sent : (index, pid, .kill) ∈ signals past) :
    ∃ managed, supervisor.processes[index]? = some managed ∧ managed.spec.stopSignal = .kill := by
  obtain ⟨transition, htransition, hsent⟩ := List.mem_flatMap.mp sent
  obtain ⟨earlier, later, rfl, before, made, _⟩ := run.split_of_mem htransition
  obtain ⟨call, hcall, rfl, _⟩ := Transition.recorded_of_signal made hsent
  obtain ⟨_, present, _⟩ := Transition.signals_of_call made hcall
  obtain ⟨hlt, _⟩ := List.getElem?_eq_some_iff.mp present
  have hindex : call.index < supervisor.processes.length :=
    (Execution.callsSound before).length_tasks ▸ hlt
  have registered := List.getElem?_eq_getElem hindex
  refine ⟨_, registered, ?_⟩
  have hfilter : (call.index, pid, Signal.kill) ∈
      (signals (earlier ++ transition :: later)).filter fun sent ↦ sent.1 = call.index :=
    List.mem_filter.mpr ⟨sent, by simp⟩
  rw [run.signals_eq assembled registered, run.recordedAt_kill_eq_nil assembled _ unexpired]
    at hfilter
  simp only [List.map_nil, List.append_nil, List.mem_map, Prod.mk.injEq] at hfilter
  obtain ⟨_, _, _, _, hsignal⟩ := hfilter
  exact hsignal

end

/-- An interrupted process without a recorded child is sent nothing more. -/
theorem Execution.no_signal_of_cleared {supervisor : Supervisor} {past future : List Transition}
    {system final : System} {index : Nat}
    (run : Execution (.ofSupervisor supervisor) past system)
    (interrupted : .interrupt index ∈ calls past) (cleared : system.pid? index = none)
    (rest : Execution system future final) (pid : UInt32) (signal : Signal) :
    (index, pid, signal) ∉ signals future := by
  obtain ⟨task, present, hquiet⟩ := run.quiet_of_interrupted interrupted
  have hpid : task.managed.pid = none := by simpa [System.pid?, present] using cleared
  have hasked : system.stopping = true := run.stopping_of_call interrupted
  have key : ∃ task, final.tasks[index]? = some task ∧ task.Quiet ∧ task.managed.pid = none ∧
      (index, pid, signal) ∉ signals future := by
    refine rest.process_induction
      (motive := fun future _ task ↦ task.Quiet ∧ task.managed.pid = none ∧
        (index, pid, signal) ∉ signals future) present ⟨hquiet, hpid, List.not_mem_nil⟩ ?_
    rintro future transition task after before made present seen ⟨hquiet, hpid, hnone⟩
    refine ⟨seen.quiet (before.stopping hasked) hquiet, seen.pid_eq_none hquiet hpid, ?_⟩
    rw [signals_append, signals_singleton]
    intro hsent
    rcases List.mem_append.mp hsent with hearlier | hnow
    · exact hnone hearlier
    · obtain ⟨_, _, _, hrecorded⟩ := Transition.recorded_of_signal made hnow
      simp [System.pid?, present, hpid] at hrecorded
  obtain ⟨_, _, _, _, hnone⟩ := key
  exact hnone

/-- What the two phases of a shutdown have done after some moves. -/
structure TwoPhases (supervisor : Supervisor) (past : List Transition) (system : System) :
    Prop where
  /-- No process is killed before every process has been interrupted. -/
  interrupts_first : ∀ earlier index later, calls past = earlier ++ .kill index :: later →
    ∀ other < supervisor.processes.length, .interrupt other ∈ earlier
  /-- If the wait ends in time, the second phase sends nothing. -/
  idle_in_time : (∀ transition ∈ past, transition.move ≠ .expire) →
    ∀ index, recordedAt (.kill index) past = []
  /-- If the wait ends in time, SIGKILL is sent as a configured stop signal only. -/
  configured_in_time : (∀ transition ∈ past, transition.move ≠ .expire) →
    ∀ index pid, (index, pid, .kill) ∈ signals past →
      ∃ managed, supervisor.processes[index]? = some managed ∧ managed.spec.stopSignal = .kill
  /-- A process is sent its stop signal if it has a child when it is interrupted, then SIGKILL if it
  has a child when it is killed, and nothing else. -/
  signals_eq : ∀ index managed, supervisor.processes[index]? = some managed →
    (signals past).filter (fun sent ↦ sent.1 = index) =
      (recordedAt (.interrupt index) past).map (fun pid ↦ (index, pid, managed.spec.stopSignal)) ++
        (recordedAt (.kill index) past).map fun pid ↦ (index, pid, .kill)
  /-- Either call finds at most one child of a process. -/
  once : ∀ call, (recordedAt call past).length ≤ 1
  /-- A shutdown that is through has reached every process with its kills. -/
  reaches_all : system.shutdown = .finished →
    ∀ index < supervisor.processes.length, .kill index ∈ calls past
  /-- A process whose child has been cleared after the interrupt is sent nothing more. -/
  cleared : ∀ index, .interrupt index ∈ calls past → system.pid? index = none →
    ∀ future final, Execution system future final →
      ∀ pid signal, (index, pid, signal) ∉ signals future

/-- A shutdown takes place in two phases, whatever the processes do in between. -/
theorem shutdown_in_two_phases {supervisor : Supervisor} {past : List Transition} {system : System}
    (assembled : supervisor.Assembled)
    (run : Execution (.ofSupervisor supervisor) past system) :
    TwoPhases supervisor past system where
  interrupts_first _ _ _ h _ hother := run.interrupt_mem_of_kill h hother
  idle_in_time unexpired index := run.recordedAt_kill_eq_nil assembled index unexpired
  configured_in_time unexpired _ _ sent := run.stopSignal_of_kill assembled unexpired sent
  signals_eq _ _ registered := run.signals_eq assembled registered
  once call := by
    have hcount : (calls past).count call ≤ 1 := List.nodup_iff_count.mp run.nodup_calls call
    exact Nat.le_trans (length_recordedAt_le call past) hcount
  reaches_all finished index hindex := by
    rw [run.callsSound.calls_eq, finished]
    exact List.mem_append_right _ (List.mem_map.mpr ⟨index, List.mem_range.mpr hindex, rfl⟩)
  cleared _ interrupted hcleared _ _ rest pid signal :=
    run.no_signal_of_cleared interrupted hcleared rest pid signal

/-- A sleeper that outlives the grace period is sent its stop signal and then SIGKILL. -/
theorem shutdown_in_two_phases_sleeper :
    ∃ past system, Execution (.ofSupervisor (.ofSpecs [.sleeper .terminate .never])) past system ∧
      system.shutdown = .finished ∧ .kill 0 ∈ calls past ∧
        (signals past).filter (fun sent ↦ sent.1 = 0) = [(0, 7, .terminate), (0, 7, .kill)] := by
  have run := Trace.of_follow (show
    (System.ofSupervisor (.ofSpecs [.sleeper .terminate .never])).follow
      (Move.start 0 7 ++ [.stop, .beginShutdown, .interrupt (.ok ()), .interrupted, .expire,
        .kill (.ok ()), .killed]) = some (_, _) from rfl)
  have phases := shutdown_in_two_phases (Supervisor.assembled_ofSpecs _) run
  exact ⟨_, _, run, rfl, phases.reaches_all rfl 0 Nat.one_pos, phases.signals_eq 0 _ rfl⟩

/-- A process with SIGKILL for its stop signal is sent it although the wait ends in time. -/
theorem kill_in_time :
    ∃ past system, Execution (.ofSupervisor (.ofSpecs [.sleeper .kill .never])) past system ∧
      (∀ transition ∈ past, transition.move ≠ .expire) ∧ system.shutdown = .finished ∧
        (0, 7, .kill) ∈ signals past := by
  have run := Trace.of_follow (show
    (System.ofSupervisor (.ofSpecs [.sleeper .kill .never])).follow
      (Move.start 0 7 ++ [.stop, .beginShutdown, .interrupt (.ok ()), .interrupted] ++
        Move.exit 0 (.signalled 9) ++ [.stopped, .stopped, .kill (.ok ()), .killed]) =
          some (_, _) from rfl)
  refine ⟨_, _, run, ?_, rfl, List.mem_singleton_self _⟩
  simp

end Supervision
