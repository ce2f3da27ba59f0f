import Supervision.Process.Threads
import Supervision.Proofs.Execution
import Supervision.Proofs.Output.Copying

/-!
# Threads, case by case

What the threads of a process can do next, and what each reader has come to after any of their
moves: what it has written, together with what it is still writing, is the copy of all that it has
read.  Left to itself, a thread does in three kinds of moves what the whole does in one.
-/

namespace Supervision

open Output

namespace Threads

inductive Moved (threads : Threads) : ThreadMove → ThreadStep → Prop
  | task {stopping : Bool} {move : TaskMove} {step : TaskStep}
      (moved : Task.Moved stopping threads.task move step)
      (own : ∀ run result, move ≠ .read run result) :
      Moved threads (.task stopping move) ⟨{ threads with task := step.task }, step.events⟩
  | interrupted (sent : Except Failure Unit) (free : threads.task.holdsLock = false) :
      Moved threads (.interrupt sent) ⟨threads, threads.task.managed.interrupt sent⟩
  | killed (sent : Except Failure Unit) (free : threads.task.holdsLock = false) :
      Moved threads (.kill sent) ⟨threads, threads.task.managed.kill sent⟩
  | read {run : Nat} {reader : Reader} (result : ReadResult) (idle : threads.copying run = none)
      (present : threads.task.managed.readers[run]? = some reader)
      (reading : reader.finished = false) :
      Moved threads (.read run result)
        ⟨threads.turn run (some ⟨(reader.step result).1, (reader.step result).2⟩), []⟩
  | wrote {run : Nat} {content : Copied} {rest : List Copied} {reader : Reader}
      (at_ : threads.copying run = some ⟨content :: rest, reader⟩) :
      Moved threads (.write run)
        ⟨threads.turn run (some ⟨rest, reader⟩), [.copied run content]⟩
  | settled {run : Nat} {reader : Reader} (at_ : threads.copying run = some ⟨[], reader⟩) :
      Moved threads (.settle run) ⟨(threads.turn run none).handBack run reader, []⟩

theorem moved_of_advance {threads : Threads} {move : ThreadMove} {step : ThreadStep}
    (h : threads.advance move = some step) : Moved threads move step := by
  unfold advance at h
  split at h
  · cases h
  · rename_i own
    obtain ⟨inner, hinner, rfl⟩ := Option.map_eq_some_iff.mp h
    exact .task (Task.moved_of_advance hinner) own
  · split at h
    · cases h
    · rename_i hfree
      cases h
      exact .interrupted _ (by simpa using hfree)
  · split at h
    · cases h
    · rename_i hfree
      cases h
      exact .killed _ (by simpa using hfree)
  · split at h
    · split at h
      · cases h
      · rename_i hreading
        cases h
        exact .read _ ‹_› ‹_› (by simpa using hreading)
    · cases h
  · split at h
    · cases h
      exact .wrote ‹_›
    · cases h
  · split at h
    · cases h
      exact .settled ‹_›
    · cases h

end Threads

/-! ## Executions -/

/-- A move of a thread as it was made. -/
abbrev ThreadTransition := MadeMove Threads ThreadMove ThreadStep

/-- The threads come from the start to where they are by these transitions. -/
abbrev Threads.Execution (start : Threads) : List ThreadTransition → Threads → Prop :=
  Trace Threads.advance ThreadStep.threads start

abbrev Threads.follow (threads : Threads) :
    List ThreadMove → Option (List ThreadTransition × Threads) :=
  Trace.follow Threads.advance ThreadStep.threads threads

/-- The moves of the first run of a task until its child is waited for. -/
def ThreadMove.opening : List ThreadMove :=
  [.openChannel (.ok ()), .lock, .check (.ok ()), .launch (.ok 7), .announce].map
    fun move ↦ .task false (.run move)

/-- What the reader of a run reads in a move. -/
def ThreadMove.readOf? (run : Nat) : ThreadMove → Option ReadResult
  | .read other result => if other = run then some result else none
  | _ => none

/-- What the reader of a run writes in an event. -/
def Event.copiedOf? (run : Nat) : Event → Option Copied
  | .copied other content => if other = run then some content else none
  | _ => none

def copiedOf (run : Nat) (events : List Event) : List Copied :=
  events.filterMap (Event.copiedOf? run)

/-- What happened to the process. -/
def threadEvents (past : List ThreadTransition) : List Event :=
  past.flatMap fun transition ↦ transition.step.events

def readsOf (run : Nat) (past : List ThreadTransition) : List ReadResult :=
  past.filterMap fun transition ↦ transition.move.readOf? run

@[simp]
theorem copiedOf_nil (run : Nat) : copiedOf run [] = [] := rfl

@[simp]
theorem copiedOf_append (run : Nat) (events more : List Event) :
    copiedOf run (events ++ more) = copiedOf run events ++ copiedOf run more :=
  List.filterMap_append ..

theorem mem_copiedOf {run : Nat} {content : Copied} {events : List Event} :
    content ∈ copiedOf run events ↔ .copied run content ∈ events := by
  constructor
  · intro h
    obtain ⟨event, hevent, hcopied⟩ := List.mem_filterMap.mp h
    cases event <;> simp_all [Event.copiedOf?]
  · exact fun h ↦ List.mem_filterMap.mpr ⟨_, h, if_pos rfl⟩

@[simp]
theorem threadEvents_append (past future : List ThreadTransition) :
    threadEvents (past ++ future) = threadEvents past ++ threadEvents future :=
  List.flatMap_append ..

@[simp]
theorem threadEvents_singleton (transition : ThreadTransition) :
    threadEvents [transition] = transition.step.events :=
  List.flatMap_singleton ..

theorem readsOf_append_singleton (run : Nat) (past : List ThreadTransition)
    (transition : ThreadTransition) :
    readsOf run (past ++ [transition]) =
      readsOf run past ++ (transition.move.readOf? run).toList := by
  cases h : transition.move.readOf? run <;> simp [readsOf, h]

/-- What is told of a signal: a notice, the signal to the recorded child, and why it failed. -/
inductive Managed.TellsSignal (managed : Managed) (notice : Notice) (signal : Signal) :
    Event → Prop
  | notice : TellsSignal managed notice signal (.wrote notice)
  | signalled {pid : UInt32} (recorded : managed.pid = some pid) :
      TellsSignal managed notice signal (.signalled pid signal)
  | failure (failure : Failure) : TellsSignal managed notice signal (.wrote (.signalFailed failure))

theorem Managed.tells_of_mem_signal {managed : Managed} {notice : Notice} {signal : Signal}
    {sent : Except Failure Unit} {event : Event} (h : event ∈ managed.signal notice signal sent) :
    managed.TellsSignal notice signal event := by
  unfold Managed.signal at h
  split at h
  · cases h
  · rename_i pid hpid
    rcases List.mem_cons.mp h with rfl | h
    · exact .notice
    · rcases List.mem_cons.mp h with rfl | h
      · exact .signalled hpid
      · split at h
        · cases h
        · rw [List.mem_singleton.mp h]
          exact .failure _

theorem Managed.copiedOf_signal (managed : Managed) (notice : Notice) (signal : Signal)
    (sent : Except Failure Unit) (run : Nat) :
    copiedOf run (managed.signal notice signal sent) = [] := by
  refine List.eq_nil_iff_forall_not_mem.mpr fun content h ↦ ?_
  cases Managed.tells_of_mem_signal (mem_copiedOf.mp h)

namespace Task

variable {stopping : Bool} {task : Task} {move : TaskMove} {step : TaskStep}

theorem Moved.copiedOf_events (h : Moved stopping task move step)
    (own : ∀ run result, move ≠ .read run result) (run : Nat) : copiedOf run step.events = [] := by
  cases h with
  | read hread => exact absurd rfl (own _ _)
  | run at_ h =>
    cases h with
    | waited pid waited => cases waited <;> rfl
    | _ => rfl
  | _ => rfl

/-- Readers are added when a channel is opened, and left alone otherwise. -/
theorem Moved.readers (h : Moved stopping task move step)
    (own : ∀ run result, move ≠ .read run result) :
    step.task.managed.readers = task.managed.readers ∨
      step.task.managed.readers = task.managed.readers ++ [.start] := by
  cases h with
  | read hread => exact absurd rfl (own _ _)
  | run at_ h =>
    cases h with
    | opened => exact .inr rfl
    | _ => exact .inl rfl
  | _ => exact .inl rfl

end Task

/-! ## What a reader has come to -/

/-- What the reader of a run has come to: there is none yet, it has written all that it has to write
of what it has read, or it is still writing what the last read gave. -/
inductive Flow (run : Nat) (threads : Threads) : List ReadResult → List Copied → Prop
  | unopened (absent : threads.task.managed.readers[run]? = none)
      (idle : threads.copying run = none) : Flow run threads [] []
  | idle {reads : List ReadResult}
      (present : threads.task.managed.readers[run]? = some (Reader.start.after reads))
      (idle : threads.copying run = none)
      (goesOn : ∀ result ∈ reads.dropLast, result.goesOn = true) :
      Flow run threads reads (Reader.start.copy reads)
  | busy {reads : List ReadResult} {last : ReadResult} {written unwritten : List Copied}
      (present : threads.task.managed.readers[run]? = some (Reader.start.after reads))
      (at_ : threads.copying run = some ⟨unwritten, Reader.start.after (reads ++ [last])⟩)
      (goesOn : ∀ result ∈ reads, result.goesOn = true)
      (copied : written ++ unwritten = Reader.start.copy (reads ++ [last])) :
      Flow run threads (reads ++ [last]) written

namespace Flow

variable {run : Nat} {threads after : Threads} {reads : List ReadResult} {copies : List Copied}

/-- Only what is known of the reader of the run matters. -/
theorem congr (h : Flow run threads reads copies)
    (readers : after.task.managed.readers[run]? = threads.task.managed.readers[run]?)
    (copying : after.copying run = threads.copying run) : Flow run after reads copies := by
  cases h with
  | unopened absent idle => exact .unopened (readers.trans absent) (copying.trans idle)
  | idle present idle goesOn => exact .idle (readers.trans present) (copying.trans idle) goesOn
  | busy present at_ goesOn copied =>
    exact .busy (readers.trans present) (copying.trans at_) goesOn copied

/-- The task goes on. -/
theorem task {task : Task} (h : Flow run threads reads copies)
    (readers : task.managed.readers = threads.task.managed.readers ∨
      task.managed.readers = threads.task.managed.readers ++ [.start]) :
    Flow run { threads with task } reads copies := by
  rcases readers with hsame | hopened
  · exact h.congr (congrArg (·[run]?) hsame) rfl
  · have hpresent {reader : Reader}
        (present : threads.task.managed.readers[run]? = some reader) :
        task.managed.readers[run]? = some reader := by
      obtain ⟨hlt, _⟩ := List.getElem?_eq_some_iff.mp present
      rw [hopened, List.getElem?_append_left hlt, present]
    cases h with
    | unopened absent idle =>
      rcases Nat.lt_or_eq_of_le (List.getElem?_eq_none_iff.mp absent) with hlt | rfl
      · refine .unopened (List.getElem?_eq_none_iff.mpr ?_) idle
        simpa [hopened] using Nat.succ_le_of_lt hlt
      · have hfirst : task.managed.readers[threads.task.managed.readers.length]? =
            some (Reader.start.after []) := by
          rw [hopened, List.getElem?_concat_length]
          rfl
        exact .idle hfirst idle (by simp)
    | idle present idle goesOn => exact .idle (hpresent present) idle goesOn
    | busy present at_ goesOn copied => exact .busy (hpresent present) at_ goesOn copied

/-- A reader that is not done has read nothing that ends the stream. -/
theorem goesOn_of_reading (reading : (Reader.start.after reads).finished = false) :
    ∀ result ∈ reads, result.goesOn = true := by
  rw [Reader.start, Reader.finished_after] at reading
  simpa using reading

end Flow

/-- A read adds to what a reader has to write, and a write takes the first of it off. -/
theorem Threads.Moved.flow {run : Nat} {threads : Threads} {move : ThreadMove} {step : ThreadStep}
    {reads : List ReadResult} {copies : List Copied} (h : Threads.Moved threads move step)
    (flow : Flow run threads reads copies) :
    Flow run step.threads (reads ++ (move.readOf? run).toList)
      (copies ++ copiedOf run step.events) := by
  have hreads : reads ++ (none : Option ReadResult).toList = reads := List.append_nil reads
  have hcopies : copies ++ copiedOf run [] = copies := List.append_nil copies
  cases h with
  | task moved own =>
    rw [moved.copiedOf_events own, List.append_nil]
    exact hreads.symm ▸ flow.task (moved.readers own)
  | interrupted sent free | killed sent free =>
    simp only [Managed.interrupt, Managed.kill, Managed.copiedOf_signal, List.append_nil]
    exact hreads.symm ▸ flow
  | @read other reader result idle present reading =>
    rw [hcopies]
    by_cases hother : other = run
    · subst hother
      have hmove : (ThreadMove.read other result).readOf? other = some result := if_pos rfl
      rw [hmove]
      cases flow with
      | unopened absent => simp [absent] at present
      | idle hpresent _ goesOn =>
        obtain rfl := Option.some.inj (hpresent.symm.trans present)
        refine .busy hpresent ?_ (Flow.goesOn_of_reading reading) (Reader.copy_concat ..).symm
        simp [Threads.turn, Reader.after_concat]
      | busy _ at_ => simp [at_] at idle
    · have hmove : (ThreadMove.read other result).readOf? run = none := if_neg hother
      rw [hmove, hreads]
      exact flow.congr rfl (if_neg fun h ↦ hother h.symm)
  | @wrote other content rest reader at_ =>
    rw [show (ThreadMove.write other).readOf? run = none from rfl, hreads]
    by_cases hother : other = run
    · subst hother
      cases flow with
      | unopened _ idle | idle _ idle => simp [at_] at idle
      | busy present hat goesOn copied =>
        cases hat.symm.trans at_
        refine .busy present (if_pos rfl) goesOn ?_
        simpa [copiedOf, Event.copiedOf?] using copied
    · have hevent : copiedOf run [.copied other content] = [] := by
        simp [copiedOf, Event.copiedOf?, hother]
      rw [hevent, List.append_nil]
      exact flow.congr rfl (if_neg fun h ↦ hother h.symm)
  | @settled other reader at_ =>
    rw [show (ThreadMove.settle other).readOf? run = none from rfl, hreads, hcopies]
    by_cases hother : other = run
    · subst hother
      cases flow with
      | unopened _ idle | idle _ idle => simp [at_] at idle
      | busy present hat goesOn copied =>
        cases hat.symm.trans at_
        obtain ⟨hlt, _⟩ := List.getElem?_eq_some_iff.mp present
        rw [← List.append_nil copies, copied]
        refine .idle (List.getElem?_set_self hlt) (if_pos rfl) ?_
        simpa using goesOn
    · exact flow.congr (List.getElem?_set_ne hother) (if_neg fun h ↦ hother h.symm)

/-- In every execution, what a reader has written and is still writing is the copy of its reads. -/
theorem Threads.Execution.flow {managed : Managed} (fresh : managed.Fresh)
    {past : List ThreadTransition} {threads : Threads}
    (run : Threads.Execution (.start managed) past threads) (number : Nat) :
    Flow number threads (readsOf number past) (copiedOf number (threadEvents past)) := by
  induction run with
  | refl =>
    obtain ⟨spec, color, kind, rfl⟩ := fresh
    exact .unopened rfl rfl
  | tail run move made ih =>
    rw [readsOf_append_singleton, threadEvents_append, threadEvents_singleton, copiedOf_append]
    exact (Threads.moved_of_advance made).flow ih

/-! ## Threads that are left to themselves -/

namespace Threads

variable {threads : Threads} {run : Nat}

@[simp]
theorem turn_turn (threads : Threads) (run : Nat) (first second : Option Copying) :
    (threads.turn run first).turn run second = threads.turn run second := by
  simp only [turn, Threads.mk.injEq, true_and]
  funext other
  split <;> simp_all

theorem copying_turn (threads : Threads) (run : Nat) (copying : Option Copying) :
    (threads.turn run copying).copying run = copying := if_pos rfl

theorem turn_none (idle : threads.copying run = none) : threads.turn run none = threads := by
  have hcopying : (fun other ↦ if other = run then none else threads.copying other) =
      threads.copying := by
    funext other
    split <;> simp_all
  simp only [turn, hcopying]

theorem advance_task {stopping : Bool} {move : TaskMove} {step : TaskStep}
    (moved : Task.Moved stopping threads.task move step)
    (own : ∀ run result, move ≠ .read run result) :
    threads.advance (.task stopping move) =
      some ⟨{ threads with task := step.task }, step.events⟩ := by
  rw [advance, moved.advance_eq, Option.map_some]
  exact own

theorem advance_write {content : Copied} {rest : List Copied} {reader : Reader}
    (at_ : threads.copying run = some ⟨content :: rest, reader⟩) :
    threads.advance (.write run) =
      some ⟨threads.turn run (some ⟨rest, reader⟩), [.copied run content]⟩ := by
  simp [advance, at_]

theorem advance_settle {reader : Reader} (at_ : threads.copying run = some ⟨[], reader⟩) :
    threads.advance (.settle run) = some ⟨(threads.turn run none).handBack run reader, []⟩ := by
  simp [advance, at_]

/-- A thread can write all that it has to write. -/
theorem exists_writes (threads : Threads) (run : Nat) (content : List Copied) (reader : Reader) :
    ∃ future, Execution (threads.turn run (some ⟨content, reader⟩)) future
      (threads.turn run (some ⟨[], reader⟩)) ∧
        threadEvents future = content.map (.copied run) := by
  induction content with
  | nil => exact ⟨[], .refl, rfl⟩
  | cons first content ih =>
    obtain ⟨future, rest, hevents⟩ := ih
    have made := advance_write (threads.copying_turn run (some ⟨first :: content, reader⟩))
    rw [turn_turn] at made
    refine ⟨_, (Trace.refl.tail _ made).trans rest, ?_⟩
    rw [threadEvents_append, hevents]
    rfl

theorem handBack_self {reader : Reader}
    (present : threads.task.managed.readers[run]? = some reader) :
    threads.handBack run reader = threads := by
  obtain ⟨hlt, rfl⟩ := List.getElem?_eq_some_iff.mp present
  simp only [handBack, List.set_getElem_self]

/-- A thread can do by itself what the whole does in one move for a read. -/
theorem exists_read {reader : Reader} (result : ReadResult) (idle : threads.copying run = none)
    (present : threads.task.managed.readers[run]? = some reader) :
    ∃ future, Execution threads future (threads.handBack run (reader.step result).2) ∧
      threadEvents future = (reader.step result).1.map (.copied run) := by
  cases hfinished : reader.finished with
  | true =>
    rw [Reader.step_of_finished hfinished, handBack_self present]
    exact ⟨[], .refl, rfl⟩
  | false =>
    have made : threads.advance (.read run result) =
        some ⟨threads.turn run (some ⟨(reader.step result).1, (reader.step result).2⟩), []⟩ := by
      simp [advance, idle, present, hfinished]
    obtain ⟨future, writes, hevents⟩ :=
      exists_writes threads run (reader.step result).1 (reader.step result).2
    have settles := advance_settle (threads.copying_turn run (some ⟨[], (reader.step result).2⟩))
    rw [turn_turn, turn_none idle] at settles
    refine ⟨_, ((Trace.refl.tail _ made).trans writes).tail _ settles, ?_⟩
    simp only [threadEvents_append, threadEvents_singleton, List.nil_append, List.append_nil,
      hevents]

end Threads

/-- What a process sees of a move of the whole is some moves of its threads. -/
theorem Transition.Seen.exists_threads {transition : Transition} {index : Nat}
    {task after : Task} (seen : transition.Seen index task after) :
    ∃ future, Threads.Execution ⟨task, fun _ ↦ none⟩ future ⟨after, fun _ ↦ none⟩ ∧
      threadEvents future = transition.eventsOf index := by
  have hone {move : ThreadMove} {after : Threads} {events : List Event}
      (made : (Threads.mk task fun _ ↦ none).advance move = some ⟨after, events⟩) :
      ∃ future, Threads.Execution ⟨task, fun _ ↦ none⟩ future after ∧
        threadEvents future = events :=
    ⟨_, .tail .refl move made, threadEvents_singleton _⟩
  cases seen with
  | @own move step hmove moved stopping uncalled events =>
    rw [events]
    by_cases own : ∀ run result, move ≠ .read run result
    · exact hone (Threads.advance_task moved own)
    · simp only [not_forall, not_not] at own
      obtain ⟨run, result, rfl⟩ := own
      cases moved with
      | read hread =>
        obtain ⟨reader, hpresent, hafter⟩ := Option.map_eq_some_iff.mp hread
        cases hafter
        exact (Threads.mk task _).exists_read result rfl hpresent
  | @interrupted sent hmove called free events =>
    rw [events]
    exact hone (show Threads.advance _ (.interrupt sent) = _ from if_neg (by simp [free]))
  | @killed sent hmove called free events =>
    rw [events]
    exact hone (show Threads.advance _ (.kill sent) = _ from if_neg (by simp [free]))
  | apart unmoved uncalled events => exact ⟨[], .refl, events.symm⟩

/-- Whatever the whole does, the threads of each of its processes can do. -/
theorem Execution.exists_threads {supervisor : Supervisor} {past : List Transition}
    {system : System} {index : Nat} {managed : Managed}
    (run : Execution (.ofSupervisor supervisor) past system)
    (registered : supervisor.processes[index]? = some managed) :
    ∃ task history, system.tasks[index]? = some task ∧
      Threads.Execution (.start managed) history ⟨task, fun _ ↦ none⟩ ∧
        threadEvents history = eventsOf index past := by
  have key : ∃ task, system.tasks[index]? = some task ∧ ∃ history,
      Threads.Execution (.start managed) history ⟨task, fun _ ↦ none⟩ ∧
        threadEvents history = eventsOf index past := by
    refine run.process_induction
      (motive := fun past _ task ↦ ∃ history,
        Threads.Execution (.start managed) history ⟨task, fun _ ↦ none⟩ ∧
          threadEvents history = eventsOf index past)
      (System.tasks_ofSupervisor registered) ⟨[], .refl, rfl⟩ ?_
    rintro past transition task after _ _ _ seen ⟨history, hrun, hevents⟩
    obtain ⟨future, hfuture, hmore⟩ := seen.exists_threads
    refine ⟨history ++ future, hrun.trans hfuture, ?_⟩
    rw [threadEvents_append, hevents, hmore, eventsOf_append, eventsOf_singleton]
  obtain ⟨task, present, history, hrun, hevents⟩ := key
  exact ⟨task, history, present, hrun, hevents⟩

end Supervision
