import Supervision.System
import Supervision.Proofs.Process.Moves

/-!
# The moves of the whole, case by case

What a system of tasks and their shutdown can do next, as a relation with one case for each way a
move can come out.
-/

namespace Supervision

namespace System

/-- The ways in which a move of the whole comes out. -/
inductive Moved (system : System) : Move → SystemStep → Prop
  | task {index : Nat} {task : Task} {move : TaskMove} {step : TaskStep}
      (present : system.tasks[index]? = some task)
      (moved : Task.Moved system.stopping task move step) :
      Moved system (.task index move)
        ⟨{ system with tasks := system.tasks.set index step.task }, ofProcess index step.events⟩
  | asked : Moved system .stop ⟨{ system with stopping := true }, []⟩
  | began (stopping : system.stopping = true) (at_ : system.shutdown = .idle) :
      Moved system .beginShutdown ⟨{ system with shutdown := .interrupting 0 }, []⟩
  | interrupted {index : Nat} {task : Task} (sent : Except Failure Unit)
      (at_ : system.shutdown = .interrupting index)
      (present : system.tasks[index]? = some task) (free : task.holdsLock = false) :
      Moved system (.interrupt sent)
        ⟨{ system with shutdown := .interrupting (index + 1) },
        ofProcess index (task.managed.interrupt sent)⟩
  | interruptedAll (at_ : system.shutdown = .interrupting system.tasks.length) :
      Moved system .interrupted ⟨{ system with shutdown := .awaiting 0 }, []⟩
  | foundStopped {index : Nat} {task : Task} (at_ : system.shutdown = .awaiting index)
      (present : system.tasks[index]? = some task) (stopped : task.managed.state ≠ .running) :
      Moved system .stopped ⟨{ system with shutdown := .awaiting (index + 1) }, []⟩
  | foundAllStopped {index : Nat} (at_ : system.shutdown = .awaiting index)
      (absent : system.tasks[index]? = none) :
      Moved system .stopped ⟨{ system with shutdown := .killing 0 }, []⟩
  | expired {index : Nat} (at_ : system.shutdown = .awaiting index) :
      Moved system .expire
        ⟨{ system with shutdown := .killing 0 }, [.logged system.expiredWarning]⟩
  | killed {index : Nat} {task : Task} (sent : Except Failure Unit)
      (at_ : system.shutdown = .killing index)
      (present : system.tasks[index]? = some task) (free : task.holdsLock = false) :
      Moved system (.kill sent)
        ⟨{ system with shutdown := .killing (index + 1) },
        ofProcess index (task.managed.kill sent)⟩
  | killedAll (at_ : system.shutdown = .killing system.tasks.length) :
      Moved system .killed ⟨{ system with shutdown := .finished }, []⟩
  | joined {index : Nat} {task : Task} (present : system.tasks[index]? = some task)
      (result : task.result? = some (.ok ())) (fresh : index ∉ system.joined) :
      Moved system (.join index) ⟨{ system with joined := system.joined ++ [index] }, []⟩
  | joinedFailed {index : Nat} {task : Task} {failure : Failure}
      (present : system.tasks[index]? = some task)
      (result : task.result? = some (.error failure)) (fresh : index ∉ system.joined) :
      Moved system (.join index)
        ⟨{ system with
          joined := system.joined ++ [index]
          failure := some (system.failure.getD failure)
          stopping := true },
        [.logged failure.message]⟩
  | finishedUnstopped (all : system.joined.length = system.tasks.length)
      (first : system.result = none) (unstopped : system.stopping = false) :
      Moved system .finish
        ⟨{ system with result := some system.outcome, shutdown := .abandoned }, []⟩
  | finishedStopped (all : system.joined.length = system.tasks.length)
      (first : system.result = none) (stopping : system.stopping = true)
      (at_ : system.shutdown = .finished) :
      Moved system .finish ⟨{ system with result := some system.outcome }, []⟩

theorem advance_task {system : System} {index : Nat} {task : Task} {move : TaskMove}
    {step : TaskStep} (present : system.tasks[index]? = some task)
    (made : task.advance system.stopping move = some step) :
    system.advance (.task index move) = some
      ⟨{ system with tasks := system.tasks.set index step.task },
      ofProcess index step.events⟩ := by
  simp [advance, present, made]

theorem eq_some_of_unlocked {system : System} {index : Nat} {task : Task}
    (h : system.unlocked? index = some task) :
    system.tasks[index]? = some task ∧ task.holdsLock = false := by
  obtain ⟨hpresent, hfree⟩ := Option.filter_eq_some_iff.mp h
  exact ⟨hpresent, by simpa using hfree⟩

/-- A move of the whole that can be made comes out in one of these ways. -/
theorem moved_of_advance {system : System} {move : Move} {step : SystemStep}
    (h : system.advance move = some step) : Moved system move step := by
  cases move with
  | task index move =>
    obtain ⟨task, present, h⟩ := Option.bind_eq_some_iff.mp h
    obtain ⟨inner, made, h⟩ := Option.bind_eq_some_iff.mp h
    cases h
    exact .task present (Task.moved_of_advance made)
  | stop => cases h; exact .asked
  | beginShutdown =>
    simp only [advance] at h
    split at h
    · rename_i hguard
      simp only [Bool.and_eq_true, beq_iff_eq] at hguard
      cases h
      exact .began hguard.1 hguard.2
    · cases h
  | interrupt sent =>
    simp only [advance] at h
    split at h
    · obtain ⟨task, hunlocked, h⟩ := Option.bind_eq_some_iff.mp h
      obtain ⟨present, free⟩ := eq_some_of_unlocked hunlocked
      cases h
      exact .interrupted sent ‹_› present free
    · cases h
  | interrupted =>
    simp only [advance] at h
    split at h
    · split at h
      · subst_vars
        cases h
        exact .interruptedAll ‹_›
      · cases h
    · cases h
  | stopped =>
    simp only [advance] at h
    split at h
    · split at h
      · split at h
        · cases h
        · cases h
          exact .foundStopped ‹_› ‹_› ‹_›
      · cases h
        exact .foundAllStopped ‹_› ‹_›
    · cases h
  | expire =>
    simp only [advance] at h
    split at h
    · cases h
      exact .expired ‹_›
    · cases h
  | kill sent =>
    simp only [advance] at h
    split at h
    · obtain ⟨task, hunlocked, h⟩ := Option.bind_eq_some_iff.mp h
      obtain ⟨present, free⟩ := eq_some_of_unlocked hunlocked
      cases h
      exact .killed sent ‹_› present free
    · cases h
  | killed =>
    simp only [advance] at h
    split at h
    · split at h
      · subst_vars
        cases h
        exact .killedAll ‹_›
      · cases h
    · cases h
  | join index =>
    obtain ⟨task, present, h⟩ := Option.bind_eq_some_iff.mp h
    obtain ⟨result, hresult, h⟩ := Option.bind_eq_some_iff.mp h
    split at h
    · cases h
    · rename_i hjoined
      have fresh : index ∉ system.joined := by simpa using hjoined
      split at h
      · cases h
        exact .joined present hresult fresh
      · cases h
        exact .joinedFailed present hresult fresh
  | finish =>
    simp only [advance] at h
    split at h
    · rename_i hguard
      simp only [Bool.and_eq_true, decide_eq_true_eq, Option.isNone_iff_eq_none] at hguard
      split at h
      · rename_i hunstopped
        cases h
        exact .finishedUnstopped hguard.1 hguard.2 (by simpa using hunstopped)
      · rename_i hstopping
        split at h
        · rename_i hfinished
          cases h
          exact .finishedStopped hguard.1 hguard.2 (by simpa using hstopping)
            (by simpa using hfinished)
        · cases h
    · cases h

end System

end Supervision
