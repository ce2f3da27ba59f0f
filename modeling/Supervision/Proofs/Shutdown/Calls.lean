import Supervision.Proofs.Execution

/-!
# The calls of a shutdown

A shutdown interrupts the processes one after another in the order of their registration, and after
the last of them kills them in the same order.  How far it has come tells exactly which calls it has
made, whatever the processes do in between and however often a stop is asked for.
-/

namespace Supervision

/-- A stop is never taken back. -/
theorem System.Moved.stopping {system : System} {move : Move} {step : SystemStep}
    (h : system.Moved move step) (asked : system.stopping = true) :
    step.system.stopping = true := by
  cases h with
  | asked | joinedFailed => rfl
  | _ => exact asked

/-- A stop once asked for is never taken back. -/
theorem Execution.stopping {start system : System} {past : List Transition}
    (run : Execution start past system) (asked : start.stopping = true) :
    system.stopping = true := by
  induction run with
  | refl => exact asked
  | tail _ move made ih => exact (System.moved_of_advance made).stopping ih

/-- The calls that a shutdown of so many processes has made when it has come so far. -/
def callsUpTo (count : Nat) : ShutdownPhase → List ShutdownCall
  | .idle | .abandoned => []
  | .interrupting next => (List.range next).map .interrupt
  | .awaiting _ => (List.range count).map .interrupt
  | .killing next => (List.range count).map .interrupt ++ (List.range next).map .kill
  | .finished => (List.range count).map .interrupt ++ (List.range count).map .kill

/-- The shutdown has made the calls that its phase says, and none before a stop was asked for. -/
structure CallsSound (count : Nat) (past : List Transition) (system : System) : Prop where
  length_tasks : system.tasks.length = count
  asked : system.stopping = true ∨ system.shutdown = .idle ∨ system.shutdown = .abandoned
  calls_eq : calls past = callsUpTo count system.shutdown

theorem callsSound_start (supervisor : Supervisor) :
    CallsSound supervisor.processes.length [] (.ofSupervisor supervisor) where
  length_tasks := List.length_map _
  asked := .inr (.inl rfl)
  calls_eq := rfl

/-- One move keeps it: the call of a move is put behind those made before, just as its phase
says. -/
theorem CallsSound.advance {count : Nat} {past : List Transition} {system : System} {move : Move}
    {step : SystemStep} (sound : CallsSound count past system)
    (made : system.advance move = some step) :
    CallsSound count (past ++ [⟨system, move, step⟩]) step.system := by
  obtain ⟨hlength, hasked, hcalls⟩ := sound
  have hmoved : system.Moved move step := System.moved_of_advance made
  have hasked' (h : system.stopping = true) : step.system.stopping = true := hmoved.stopping h
  cases hmoved with
  | task present moved =>
    refine ⟨by simpa using hlength, hasked, ?_⟩
    simpa [calls_singleton, Transition.call?] using hcalls
  | asked | joinedFailed =>
    refine ⟨hlength, .inl rfl, ?_⟩
    simpa [calls_singleton, Transition.call?] using hcalls
  | began stopping at_ =>
    refine ⟨hlength, .inl stopping, ?_⟩
    rw [at_] at hcalls
    simpa [calls_singleton, Transition.call?, callsUpTo] using hcalls
  | interrupted sent at_ present free =>
    rw [at_] at hasked hcalls
    refine ⟨hlength, .inl (by simpa using hasked), ?_⟩
    simp [calls_singleton, Transition.call?, at_, hcalls, callsUpTo, List.range_succ]
  | interruptedAll at_ =>
    rw [at_] at hasked hcalls
    refine ⟨hlength, .inl (by simpa using hasked), ?_⟩
    simp [calls_singleton, Transition.call?, hcalls, callsUpTo, hlength]
  | foundStopped at_ | foundAllStopped at_ | expired at_ =>
    rw [at_] at hasked hcalls
    refine ⟨hlength, .inl (by simpa using hasked), ?_⟩
    simp [calls_singleton, Transition.call?, hcalls, callsUpTo]
  | killed sent at_ present free =>
    rw [at_] at hasked hcalls
    refine ⟨hlength, .inl (by simpa using hasked), ?_⟩
    simp [calls_singleton, Transition.call?, at_, hcalls, callsUpTo, List.range_succ]
  | killedAll at_ =>
    rw [at_] at hasked hcalls
    refine ⟨hlength, .inl (by simpa using hasked), ?_⟩
    simp [calls_singleton, Transition.call?, hcalls, callsUpTo, hlength]
  | joined =>
    refine ⟨hlength, hasked, ?_⟩
    simpa [calls_singleton, Transition.call?] using hcalls
  | finishedUnstopped all first unstopped =>
    refine ⟨hlength, .inr (.inr rfl), ?_⟩
    have hnone : calls past = [] := by
      rcases hasked with h | h | h
      · rw [unstopped] at h
        cases h
      all_goals rw [hcalls, h]; rfl
    simp [calls_singleton, Transition.call?, hnone, callsUpTo]
  | finishedStopped all first stopping at_ =>
    refine ⟨hlength, .inl stopping, ?_⟩
    simpa [calls_singleton, Transition.call?] using hcalls

section

variable {supervisor : Supervisor} {past : List Transition} {system : System}
  (run : Execution (.ofSupervisor supervisor) past system)

include run

theorem Execution.callsSound : CallsSound supervisor.processes.length past system := by
  induction run with
  | refl => exact callsSound_start supervisor
  | tail _ move made ih => exact ih.advance made

/-- No call is made before a stop was asked for. -/
theorem Execution.stopping_of_call {call : ShutdownCall} (h : call ∈ calls past) :
    system.stopping = true := by
  obtain ⟨_, hasked, hcalls⟩ := run.callsSound
  rcases hasked with hstopping | hidle | habandoned
  · exact hstopping
  · rw [hcalls, hidle] at h
    cases h
  · rw [hcalls, habandoned] at h
    cases h

/-- No call is made twice. -/
theorem Execution.nodup_calls : (calls past).Nodup := by
  have hinterrupts (count : Nat) : ((List.range count).map ShutdownCall.interrupt).Nodup :=
    List.Pairwise.map _ (fun _ _ h ↦ by simpa using h) List.nodup_range
  have hkills (count : Nat) : ((List.range count).map ShutdownCall.kill).Nodup :=
    List.Pairwise.map _ (fun _ _ h ↦ by simpa using h) List.nodup_range
  have hboth (count next : Nat) : ((List.range count).map ShutdownCall.interrupt ++
      (List.range next).map ShutdownCall.kill).Nodup := by
    refine List.nodup_append.mpr ⟨hinterrupts count, hkills next, ?_⟩
    simp
  rw [run.callsSound.calls_eq]
  cases system.shutdown with
  | idle | abandoned => exact List.nodup_nil
  | interrupting next => exact hinterrupts next
  | awaiting next => exact hinterrupts _
  | killing next => exact hboth _ next
  | finished => exact hboth _ _

/-- Before the first kill every process has been interrupted, since all interrupts are called first and
no kill is one of them. -/
theorem Execution.interrupt_mem_of_kill {earlier later : List ShutdownCall} {index other : Nat}
    (h : calls past = earlier ++ .kill index :: later)
    (hother : other < supervisor.processes.length) :
    .interrupt other ∈ earlier := by
  have hkill : ShutdownCall.kill index ∈ calls past := by simp [h]
  have hcalls := run.callsSound.calls_eq
  have key (next : Nat) (hnext : calls past =
      (List.range supervisor.processes.length).map .interrupt ++ (List.range next).map .kill) :
      .interrupt other ∈ earlier := by
    have hmem : ShutdownCall.interrupt other ∈
        (List.range supervisor.processes.length).map ShutdownCall.interrupt :=
      List.mem_map.mpr ⟨other, List.mem_range.mpr hother, rfl⟩
    rcases List.append_eq_append_iff.mp (h.symm.trans hnext) with
      ⟨rest, hrest, htail⟩ | ⟨rest, hrest, _⟩
    · cases rest with
      | nil => simpa [hrest] using hmem
      | cons first rest =>
        obtain ⟨rfl, _⟩ := List.cons.inj htail
        have hkill : ShutdownCall.kill index ∈
            (List.range supervisor.processes.length).map ShutdownCall.interrupt := by
          simp [hrest]
        simp at hkill
    · rw [hrest]
      exact List.mem_append_left _ hmem
  cases hshutdown : system.shutdown with
  | killing next => exact key next (by rw [hcalls, hshutdown]; rfl)
  | finished => exact key _ (by rw [hcalls, hshutdown]; rfl)
  | _ => rw [hcalls, hshutdown] at hkill; simp [callsUpTo] at hkill

end

section

variable {supervisor : Supervisor} {index : Nat} {past : List Transition} {transition : Transition}
  (run : Execution (.ofSupervisor supervisor) past transition.before)
  (made : transition.before.advance transition.move = some transition.step)

include run made

/-- No call is made twice. -/
theorem Execution.not_mem_calls_of_call {call : ShutdownCall}
    (called : transition.call? = some call) : call ∉ calls past := by
  have hnodup := Execution.nodup_calls (run.tail transition.move made)
  rw [calls_append, calls_singleton, called] at hnodup
  intro h
  exact (List.nodup_append.mp hnodup).2.2 call h call (List.mem_singleton_self call) rfl

/-- A process that is killed was interrupted before. -/
theorem Execution.interrupt_mem_of_kill_call (hindex : index < supervisor.processes.length)
    (called : transition.call? = some (.kill index)) : .interrupt index ∈ calls past := by
  have hkill : calls (past ++ [transition]) = calls past ++ .kill index :: [] := by
    rw [calls_append, calls_singleton, called]
    rfl
  exact Execution.interrupt_mem_of_kill (run.tail transition.move made) hkill hindex

theorem Execution.kill_not_mem_of_interrupt_call (hindex : index < supervisor.processes.length)
    (called : transition.call? = some (.interrupt index)) : .kill index ∉ calls past := by
  intro h
  obtain ⟨earlier, later, hsplit⟩ := List.append_of_mem h
  refine run.not_mem_calls_of_call made called ?_
  rw [hsplit]
  exact List.mem_append_left _ (run.interrupt_mem_of_kill hsplit hindex)

end

end Supervision
