import Supervision.Proofs.Shutdown.Calls

/-!
# The signals of a shutdown

Signals are sent by the calls of the shutdown and by nothing else: a call sends one signal to the
child that is recorded of its process at that moment, and none if there is no record.
-/

namespace Supervision

def System.pid? (system : System) (index : Nat) : Option UInt32 :=
  system.tasks[index]?.bind fun task ↦ task.managed.pid

/-- To which process and which child a signal was sent, if one was. -/
def Occurrence.signal? : Occurrence → Option (Nat × UInt32 × Signal)
  | .process index (.signalled pid signal) => some (index, pid, signal)
  | _ => none

/-- The signals among what happened in a move. -/
def signalsIn (occurrences : List Occurrence) : List (Nat × UInt32 × Signal) :=
  occurrences.filterMap Occurrence.signal?

def signals (past : List Transition) : List (Nat × UInt32 × Signal) :=
  past.flatMap fun transition ↦ signalsIn transition.step.occurrences

@[simp]
theorem signals_append (past future : List Transition) :
    signals (past ++ future) = signals past ++ signals future := by
  simp [signals]

theorem signals_singleton (transition : Transition) :
    signals [transition] = signalsIn transition.step.occurrences := by
  simp [signals]

/-- A signal goes to the recorded child, if there is one. -/
theorem signalsIn_signal (index : Nat) (managed : Managed) (notice : Notice) (signal : Signal)
    (sent : Except Failure Unit) :
    signalsIn (System.ofProcess index (managed.signal notice signal sent)) =
      managed.pid.toList.map fun pid ↦ (index, pid, signal) := by
  unfold Managed.signal
  cases managed.pid with
  | none => rfl
  | some pid => cases sent <;> rfl

/-- The signal that a call sends to a process with the given description. -/
def ShutdownCall.signal (spec : ProcessSpec) : ShutdownCall → Signal
  | .interrupt _ => spec.stopSignal
  | .kill _ => .kill

def ShutdownCall.index : ShutdownCall → Nat
  | .interrupt index | .kill index => index

/-- The children that were recorded of its process whenever the call was made. -/
def recordedAt (call : ShutdownCall) (past : List Transition) : List UInt32 :=
  past.flatMap fun transition ↦
    if transition.call? = some call then (transition.before.pid? call.index).toList else []

@[simp]
theorem recordedAt_append (call : ShutdownCall) (past future : List Transition) :
    recordedAt call (past ++ future) = recordedAt call past ++ recordedAt call future := by
  simp [recordedAt]

theorem recordedAt_singleton (call : ShutdownCall) (transition : Transition) :
    recordedAt call [transition] =
      if transition.call? = some call then (transition.before.pid? call.index).toList
      else [] := by
  simp [recordedAt]

theorem recordedAt_eq_nil {call : ShutdownCall} {past : List Transition} (h : call ∉ calls past) :
    recordedAt call past = [] := by
  refine List.flatMap_eq_nil_iff.mpr fun transition htransition ↦ ?_
  rw [if_neg]
  intro hcall
  exact h (List.mem_filterMap.mpr ⟨transition, htransition, hcall⟩)

/-- No more children are recorded at a call than it is made. -/
theorem length_recordedAt_le (call : ShutdownCall) (past : List Transition) :
    (recordedAt call past).length ≤ (calls past).count call := by
  induction past with
  | nil => exact Nat.le_refl 0
  | cons transition past ih =>
    have hcons : transition :: past = [transition] ++ past := rfl
    rw [hcons, recordedAt_append, calls_append, List.length_append, List.count_append,
      recordedAt_singleton, calls_singleton]
    refine Nat.add_le_add ?_ ih
    by_cases hcall : transition.call? = some call
    · rw [if_pos hcall, hcall]
      cases transition.before.pid? call.index <;> simp
    · rw [if_neg hcall]
      exact Nat.zero_le _

/-- A call is made on a process whose lock is free, sends its signal to the recorded child, and
changes nothing that is recorded. -/
theorem Transition.signals_of_call {transition : Transition} {call : ShutdownCall}
    (made : transition.before.advance transition.move = some transition.step)
    (called : transition.call? = some call) :
    ∃ task, transition.before.tasks[call.index]? = some task ∧ task.holdsLock = false ∧
      transition.step.system.tasks = transition.before.tasks ∧
        signalsIn transition.step.occurrences =
          task.managed.pid.toList.map fun pid ↦
            (call.index, pid, call.signal task.managed.spec) := by
  obtain ⟨system, move, step⟩ := transition
  have hmoved : system.Moved move step := System.moved_of_advance made
  cases hmoved with
  | @interrupted index task sent at_ present free =>
    obtain rfl : .interrupt index = call := by simpa [call?, at_] using called
    exact ⟨task, present, free, rfl, signalsIn_signal index task.managed _ _ sent⟩
  | @killed index task sent at_ present free =>
    obtain rfl : .kill index = call := by simpa [call?, at_] using called
    exact ⟨task, present, free, rfl, signalsIn_signal index task.managed _ _ sent⟩
  | _ => simp [call?] at called

/-- Without a call no signal is sent. -/
theorem Transition.signals_of_no_call {transition : Transition}
    (made : transition.before.advance transition.move = some transition.step)
    (uncalled : transition.call? = none) : signalsIn transition.step.occurrences = [] := by
  obtain ⟨system, move, step⟩ := transition
  have hmoved : system.Moved move step := System.moved_of_advance made
  cases hmoved with
  | @task index task taskMove taskStep present moved =>
    refine List.filterMap_eq_nil_iff.mpr fun occurrence hoccurrence ↦ ?_
    obtain ⟨event, hevent, rfl⟩ := List.mem_map.mp hoccurrence
    cases event with
    | signalled pid signal => exact absurd hevent moved.not_signalled
    | _ => rfl
  | interrupted sent at_ | killed sent at_ => simp [call?, at_] at uncalled
  | _ => rfl

/-- What a call sends is the signal of the call, to the child that is recorded when it is made. -/
theorem Execution.signals_of_call {supervisor : Supervisor} {past : List Transition}
    {transition : Transition} {call : ShutdownCall} {managed : Managed}
    (assembled : supervisor.Assembled)
    (run : Execution (.ofSupervisor supervisor) past transition.before)
    (made : transition.before.advance transition.move = some transition.step)
    (called : transition.call? = some call)
    (registered : supervisor.processes[call.index]? = some managed) :
    signalsIn transition.step.occurrences =
      (transition.before.pid? call.index).toList.map fun pid ↦
        (call.index, pid, call.signal managed.spec) := by
  obtain ⟨task, present, _, _, hsignals⟩ := Transition.signals_of_call made called
  obtain ⟨_, hspec⟩ := run.sound_at assembled registered present
  have hpid : transition.before.pid? call.index = task.managed.pid := by
    simp [System.pid?, present]
  rw [hpid, ← hspec]
  exact hsignals

/-- Signals are sent in calls only, and to recorded children only. -/
theorem Transition.recorded_of_signal {transition : Transition} {index : Nat} {pid : UInt32}
    {signal : Signal}
    (made : transition.before.advance transition.move = some transition.step)
    (sent : (index, pid, signal) ∈ signalsIn transition.step.occurrences) :
    ∃ call, transition.call? = some call ∧ call.index = index ∧
      transition.before.pid? index = some pid := by
  cases hcall : transition.call? with
  | none =>
    rw [Transition.signals_of_no_call made hcall] at sent
    cases sent
  | some call =>
    obtain ⟨task, present, _, _, hsignals⟩ := Transition.signals_of_call made hcall
    rw [hsignals] at sent
    obtain ⟨number, hnumber, heq⟩ := List.mem_map.mp sent
    cases heq
    refine ⟨call, rfl, rfl, ?_⟩
    simpa [System.pid?, present] using hnumber

end Supervision
