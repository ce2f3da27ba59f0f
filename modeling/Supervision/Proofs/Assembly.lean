import Supervision.Supervisor

/-!
# Supervisors before they are run

A supervisor is put together by registering processes, asking for stops and subscribing to signals,
in any order.  Whatever the order, none of its processes has been started.
-/

namespace Supervision

/-- The process is as it was registered. -/
def Managed.Fresh (managed : Managed) : Prop :=
  ∃ spec color kind, managed = .ofSpec spec color kind

namespace Supervisor

/-- The supervisors that can be put together before a run. -/
inductive Assembled : Supervisor → Prop
  | start (name : String) (gracefulTimeout : Span) (kind : Output.ChannelKind)
      (output : Output.Multiplexer) : Assembled (start name gracefulTimeout kind output)
  | withKind {supervisor : Supervisor} (before : Assembled supervisor)
      (kind : Output.ChannelKind) : Assembled (supervisor.withKind kind)
  | addSpec {supervisor : Supervisor} (before : Assembled supervisor) (spec : ProcessSpec) :
      Assembled (supervisor.addSpec spec)
  | addProcess {supervisor : Supervisor} (before : Assembled supervisor) (name command : String)
      (options : List ProcessOption) : Assembled (supervisor.addProcess name command options).2
  | subscribe {supervisor subscribed : Supervisor} (before : Assembled supervisor)
      (signal : Signal) (accepted : supervisor.subscribe signal = .ok subscribed) :
      Assembled subscribed
  | stop {supervisor : Supervisor} (before : Assembled supervisor) : Assembled supervisor.stop

theorem fresh_of_mem_addSpec {supervisor : Supervisor} {spec : ProcessSpec} {managed : Managed}
    (h : ∀ registered ∈ supervisor.processes, registered.Fresh)
    (hm : managed ∈ (supervisor.addSpec spec).processes) : managed.Fresh := by
  simp only [addSpec, List.mem_append, List.mem_singleton] at hm
  rcases hm with hm | rfl
  · exact h managed hm
  · exact ⟨spec, supervisor.nextColor, supervisor.kind, rfl⟩

theorem processes_subscribe {supervisor subscribed : Supervisor} {signal : Signal}
    (h : supervisor.subscribe signal = .ok subscribed) :
    subscribed.processes = supervisor.processes := by
  unfold subscribe at h
  split at h
  · cases h
  · cases h
    rfl

/-- No process has done anything before the run. -/
theorem Assembled.fresh {supervisor : Supervisor} (assembled : supervisor.Assembled) :
    ∀ managed ∈ supervisor.processes, managed.Fresh := by
  induction assembled with
  | start name gracefulTimeout kind output =>
    intro managed hm
    exact absurd hm List.not_mem_nil
  | withKind _ kind ih => exact ih
  | addSpec _ spec ih =>
    intro managed hm
    exact fresh_of_mem_addSpec ih hm
  | @addProcess supervisor _ name command options ih =>
    intro managed hm
    unfold Supervisor.addProcess at hm
    split at hm
    · exact fresh_of_mem_addSpec ih hm
    · exact ih managed hm
  | subscribe _ signal accepted ih =>
    rw [processes_subscribe accepted]
    exact ih
  | stop _ ih => exact ih

def addSpecs (supervisor : Supervisor) (specs : List ProcessSpec) : Supervisor :=
  specs.foldl addSpec supervisor

theorem Assembled.addSpecs {supervisor : Supervisor} (before : Assembled supervisor)
    (specs : List ProcessSpec) : Assembled (supervisor.addSpecs specs) := by
  induction specs generalizing supervisor with
  | nil => exact before
  | cons spec specs ih => exact ih (before.addSpec spec)

/-- A supervisor of some processes, which it gives five seconds to stop. -/
def ofSpecs (specs : List ProcessSpec) : Supervisor :=
  (start "main" (.ofSeconds 5) .pipe (.start false .everything)).addSpecs specs

theorem assembled_ofSpecs (specs : List ProcessSpec) : (ofSpecs specs).Assembled :=
  (Assembled.start "main" (.ofSeconds 5) .pipe (.start false .everything)).addSpecs specs

end Supervisor

end Supervision
