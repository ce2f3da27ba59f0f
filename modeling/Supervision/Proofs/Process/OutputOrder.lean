import Supervision.Proofs.Process.Drains
import Supervision.Proofs.Process.Enclosed

/-!
# Output in order

Whatever the threads of a process do, the line that a child runs stands before all lines of its
output.  If the output was drained, all of it stands before the line how the child has ended, with
the partial line at its end, and nothing comes after it.
-/

namespace Supervision

open Output

/-- How many channels were opened; the last of them is that of the present run. -/
def Threads.channels (threads : Threads) : Nat := threads.task.managed.readers.length

/-- The event happened in the run of this number. -/
def ThreadTransition.Tells (transition : ThreadTransition) (run : Nat) (event : Event) : Prop :=
  transition.before.channels = run + 1 ∧ event ∈ transition.step.events

instance (transition : ThreadTransition) (run : Nat) (event : Event) :
    Decidable (transition.Tells run event) :=
  inferInstanceAs (Decidable (_ ∧ _))

/-- Data is read from the channel of a run only after the child of that run was started. -/
def FedByChildren (past : List ThreadTransition) : Prop :=
  ∀ earlier transition later, past = earlier ++ transition :: later →
    ∀ run chunk, transition.move = .read run (.data chunk) → chunk ≠ [] →
      ∃ first ∈ earlier, ∃ pid, first.Tells run (.spawned pid)

/-- It is enough that no data is read at first, and afterwards from runs with a child. -/
theorem fedByChildren_of_follow {start final : Threads} {history : List ThreadTransition}
    {opening ending : List ThreadMove}
    (followed : start.follow (opening ++ ending) = some (history, final))
    (unread : ∀ run chunk, .read run (.data chunk) ∉ opening)
    (started : ∀ opened ∈ start.follow opening, ∀ run chunk, .read run (.data chunk) ∈ ending →
      ∃ pid, ∃ transition ∈ opened.1, transition.Tells run (.spawned pid)) :
    FedByChildren history := by
  obtain ⟨past, middle, future, first, second, rfl⟩ := Trace.exists_follow_of_append followed
  intro earlier transition later hsplit run chunk hmove _
  have hpast (h : transition ∈ past) : False :=
    unread run chunk (hmove ▸ Trace.move_mem_of_follow first h)
  have hfuture (h : transition ∈ future) :
      ∃ other ∈ past, ∃ pid, ThreadTransition.Tells other run (.spawned pid) := by
    have hread := Trace.move_mem_of_follow second h
    obtain ⟨pid, other, hother, hspawned⟩ := started _ first run chunk (hmove ▸ hread)
    exact ⟨other, hother, pid, hspawned⟩
  rcases List.append_eq_append_iff.mp hsplit with ⟨front, rfl, rfl⟩ | ⟨rest, rfl, hrest⟩
  · obtain ⟨other, hother, hspawned⟩ := hfuture List.mem_append_cons_self
    exact ⟨other, List.mem_append_left _ hother, hspawned⟩
  · cases rest with
    | nil =>
      obtain rfl : future = transition :: later := hrest.symm
      obtain ⟨other, hother, hspawned⟩ := hfuture List.mem_cons_self
      exact ⟨other, List.append_nil earlier ▸ hother, hspawned⟩
    | cons other rest =>
      obtain ⟨rfl, _⟩ := List.cons.inj hrest
      exact (hpast List.mem_append_cons_self).elim

/-! ## Announcements -/

namespace Task

variable {stopping : Bool} {task : Task} {move : TaskMove} {step : TaskStep}

/-- A run is about to start its child when it has said so. -/
theorem Moved.announces (h : Moved stopping task move step)
    (own : ∀ run result, move ≠ .read run result)
    (at_ : step.task.phase = .running .launching) :
    .wrote .running ∈ step.events ∧ step.task.managed.readers = task.managed.readers := by
  cases h with
  | read hread => exact absurd rfl (own _ _)
  | run before h => cases h <;> simp_all
  | _ => simp_all [leave]

/-- Only a run that is at its launch starts a child. -/
theorem Moved.launching_of_spawned {pid : UInt32} (h : Moved stopping task move step)
    (spawned : .spawned pid ∈ step.events) : task.phase = .running .launching := by
  cases h with
  | read hread =>
    obtain ⟨_, hcopied⟩ := Managed.copied_of_mem_read hread spawned
    cases hcopied
  | run at_ h =>
    cases h with
    | launched => exact at_
    | waited pid waited => cases waited <;> simp [Managed.endOfWait] at spawned
    | _ => simp at spawned
  | _ => simp [leave] at spawned

end Task

/-- A run that is about to start its child has said so. -/
def Threads.Announced (threads : Threads) (past : List ThreadTransition) : Prop :=
  threads.task.phase = .running .launching →
    ∃ first ∈ past, first.before.channels = threads.channels ∧
      .wrote .running ∈ first.step.events

/-! ## Exits -/

/-- The run has its channel, and has not said yet how the wait for its child has ended. -/
def TaskPhase.Ongoing : TaskPhase → Prop
  | .running .opening | .running (.returned _) => False
  | .running _ => True
  | _ => False

/-- A run that goes on has just opened its channel, or went on before and says nothing of its
end. -/
theorem Task.Moved.ongoing {stopping : Bool} {task : Task} {move : TaskMove} {step : TaskStep}
    (h : Task.Moved stopping task move step) (own : ∀ run result, move ≠ .read run result)
    (after : step.task.phase.Ongoing) :
    step.task.managed.readers = task.managed.readers ++ [.start] ∨
      step.task.managed.readers = task.managed.readers ∧ task.phase.Ongoing ∧
        ∀ notice, .wrote notice ∈ step.events → notice.tellsEnd = false := by
  cases h with
  | read hread => exact absurd rfl (own _ _)
  | run at_ h =>
    cases h with
    | opened => exact .inl rfl
    | waited pid waited =>
      cases waited <;> simp [at_, TaskPhase.Ongoing, Managed.endOfWait]
    | _ => simp_all [TaskPhase.Ongoing, Notice.tellsEnd]
  | _ => exact after.elim

namespace Threads

variable {threads : Threads} {move : ThreadMove} {step : ThreadStep} {past : List ThreadTransition}

/-- A move is one of the task, or leaves the task where it is and says nothing of a child but that a
signal is sent. -/
theorem Moved.task_or_aside (h : Moved threads move step) :
    (∃ stopping inner taskStep, Task.Moved stopping threads.task inner taskStep ∧
      (∀ run result, inner ≠ .read run result) ∧ step.threads.task = taskStep.task ∧
        step.events = taskStep.events) ∨
    (step.threads.task.phase = threads.task.phase ∧ step.threads.channels = threads.channels ∧
      (∀ pid, .spawned pid ∉ step.events) ∧
        ∀ notice, .wrote notice ∈ step.events → notice.tellsEnd = false) := by
  have hsignal (notice : Notice) (signal : Signal) (sent : Except Failure Unit)
      (about : notice.tellsEnd = false) :
      (∀ pid, .spawned pid ∉ threads.task.managed.signal notice signal sent) ∧
        ∀ other, .wrote other ∈ threads.task.managed.signal notice signal sent →
          other.tellsEnd = false := by
    refine ⟨fun pid h ↦ ?_, fun other h ↦ ?_⟩
    · cases Managed.tells_of_mem_signal h
    · cases Managed.tells_of_mem_signal h with
      | notice => exact about
      | failure => rfl
  cases h with
  | task moved own => exact .inl ⟨_, _, _, moved, own, rfl, rfl⟩
  | interrupted sent free => exact .inr ⟨rfl, rfl, hsignal _ _ _ rfl⟩
  | killed sent free => exact .inr ⟨rfl, rfl, hsignal _ _ _ rfl⟩
  | read result idle present reading => exact .inr ⟨rfl, rfl, by simp, by simp⟩
  | wrote at_ => exact .inr ⟨rfl, rfl, by simp, by simp⟩
  | settled at_ => exact .inr ⟨rfl, List.length_set, by simp, by simp⟩

theorem Moved.announced (h : Moved threads move step) (announced : threads.Announced past) :
    step.threads.Announced (past ++ [⟨threads, move, step⟩]) := by
  intro at_
  rcases h.task_or_aside with ⟨_, _, taskStep, moved, own, htask, hevents⟩ | ⟨hphase, hchannels, _⟩
  · rw [htask] at at_
    obtain ⟨hsaid, hreaders⟩ := moved.announces own at_
    refine ⟨_, List.mem_concat_self, ?_, hevents ▸ hsaid⟩
    rw [channels, channels, htask, hreaders]
  · obtain ⟨first, hfirst, hsame, hsaid⟩ := announced (hphase ▸ at_)
    exact ⟨first, List.mem_append_left _ hfirst, hsame.trans hchannels.symm, hsaid⟩

/-- The channels were opened one after another, and a run that goes on has not said how the wait for
its child has ended. -/
structure Unreported (threads : Threads) (past : List ThreadTransition) : Prop where
  bounded : ∀ earlier ∈ past, earlier.before.channels ≤ threads.channels
  ongoing : threads.task.phase.Ongoing → 0 < threads.channels ∧
    ∀ earlier ∈ past, earlier.before.channels = threads.channels →
      ∀ notice, .wrote notice ∈ earlier.step.events → notice.tellsEnd = false

/-- A run that goes on has just opened its channel, or went on before and said nothing of an end. -/
theorem Moved.ongoing (h : Moved threads move step) (after : step.threads.task.phase.Ongoing) :
    step.threads.channels = threads.channels + 1 ∨
      step.threads.channels = threads.channels ∧ threads.task.phase.Ongoing ∧
        ∀ notice, .wrote notice ∈ step.events → notice.tellsEnd = false := by
  rcases h.task_or_aside with ⟨_, _, taskStep, moved, own, htask, hevents⟩ |
    ⟨hphase, hchannels, _, hsilent⟩
  · rw [htask] at after
    rw [channels, channels, htask, hevents]
    rcases moved.ongoing own after with hopened | ⟨hsame, hbefore, hsilent⟩
    · exact .inl (by rw [hopened, List.length_append, List.length_singleton])
    · exact .inr ⟨congrArg _ hsame, hbefore, hsilent⟩
  · exact .inr ⟨hchannels, hphase ▸ after, hsilent⟩

theorem Moved.channels_le (h : Moved threads move step) :
    threads.channels ≤ step.threads.channels := by
  cases h with
  | task moved own =>
    rcases moved.readers own with hsame | hopened
    · exact Nat.le_of_eq (congrArg List.length hsame.symm)
    · simp [channels, hopened]
  | settled at_ => exact Nat.le_of_eq List.length_set.symm
  | _ => exact Nat.le_refl _

/-- One move keeps that an end is told only of a run that is over.  When a channel is opened there
is none to tell of, since nothing was said yet with so many channels. -/
theorem Moved.unreported (h : Moved threads move step) (unreported : threads.Unreported past) :
    step.threads.Unreported (past ++ [⟨threads, move, step⟩]) := by
  have hbounded : ∀ earlier ∈ past ++ [⟨threads, move, step⟩],
      earlier.before.channels ≤ threads.channels :=
    List.forall_mem_append.mpr ⟨unreported.bounded, by simp⟩
  constructor
  case bounded => exact fun earlier hearlier ↦ (hbounded earlier hearlier).trans h.channels_le
  case ongoing =>
    intro ongoing
    rcases h.ongoing ongoing with hopened | ⟨hsame, hbefore, hsilent⟩
    · refine ⟨by omega, fun earlier hearlier hchannels ↦ ?_⟩
      have hle := hbounded earlier hearlier
      omega
    · obtain ⟨hopened, hbefore⟩ := unreported.ongoing hbefore
      rw [hsame]
      exact ⟨hopened, List.forall_mem_append.mpr ⟨hbefore, by simpa using hsilent⟩⟩

namespace Execution

variable {managed : Managed}

theorem announced (h : Execution (.start managed) past threads) : threads.Announced past := by
  induction h with
  | refl => nofun
  | tail run move made ih => exact (moved_of_advance made).announced ih

theorem unreported (h : Execution (.start managed) past threads) : threads.Unreported past := by
  induction h with
  | refl => exact ⟨by simp, False.elim⟩
  | tail run move made ih => exact (moved_of_advance made).unreported ih

end Execution

/-- A run that finds its output drained was told so by its reader. -/
theorem hasTold_of_isDrained {run : Nat} (channels : threads.channels = run + 1)
    (drained : threads.task.managed.isDrained = true) : threads.hasTold run = true := by
  have hlength : threads.task.managed.readers.length = run + 1 := channels
  have hlast : threads.task.managed.readers.getLast? = threads.task.managed.readers[run]? := by
    rw [List.getLast?_eq_getElem?, hlength]
    rfl
  have hlt : run < threads.task.managed.readers.length := hlength ▸ Nat.lt_succ_self run
  unfold Managed.isDrained at drained
  rw [hlast, List.getElem?_eq_getElem hlt] at drained
  rw [hasTold, List.getElem?_eq_getElem hlt]
  exact drained

end Threads

/-! ## Output in order -/

/-- What is so of a run whose output was drained at some moment. -/
structure Drained (run : Nat) (earlier later : List ThreadTransition) (threads : Threads) :
    Prop where
  /-- All that the channel gave is written, up to the end of the stream, with the partial line. -/
  whole : ∃ front last, readsOf run earlier = front ++ [last] ∧
    (∀ result ∈ front, result.goesOn = true) ∧ last.goesOn = false ∧
      copiedOf run (threadEvents earlier) =
        Reader.completeLines front ++ last.complaints ++ Reader.partialLine front
  /-- Until then nothing is said of how the child has ended. -/
  unreported : ∀ other ∈ earlier, ∀ notice, other.Tells run (.wrote notice) →
    notice.tellsEnd = false
  /-- The reader writes nothing after that. -/
  silent : copiedOf run (threadEvents later) = []
  /-- It stays drained. -/
  stays : threads.Done run
  /-- Whoever drains its channel again is told so at once. -/
  again : ∀ (pipe : Pipe) expired, pipe.drain? (threads.hasTold run) expired = some (true, ⟨false⟩)

/-- The lines of a process come in order. -/
structure OutputInOrder (past : List ThreadTransition) (threads : Threads) : Prop where
  /-- The line that the child of a run is started stands before all lines of its output. -/
  announced : ∀ earlier transition later, past = earlier ++ transition :: later →
    ∀ run line, .copied run (.line line) ∈ transition.step.events →
      ∃ first ∈ earlier, first.Tells run (.wrote .running)
  /-- What was drained is whole, stands before the line how the child has ended, and is all. -/
  drained : ∀ earlier transition later, past = earlier ++ transition :: later →
    ∀ stopping, transition.move = .task stopping (.run .drained) →
      ∃ run, transition.before.channels = run + 1 ∧
        Drained run earlier (transition :: later) threads
  /-- Once a drain of a channel was answered with yes, so is every later one. -/
  drainedAgain : ∀ run history after, Piped.Execution run ⟨threads, .start⟩ history after →
    ∀ earlier transition later, history = earlier ++ transition :: later →
      transition.step.answer = some true → DrainedForGood run transition later after

/-- A reader has written part of what it writes for all that it has read. -/
theorem Flow.mem_copy {run : Nat} {threads : Threads} {reads : List ReadResult}
    {copies : List Copied} {content : Copied} (flow : Flow run threads reads copies)
    (h : content ∈ copies) : content ∈ Reader.start.copy reads := by
  cases flow with
  | unopened => exact absurd h List.not_mem_nil
  | idle => exact h
  | busy _ _ _ copied =>
    rw [← copied]
    exact List.mem_append_left _ h

theorem ThreadMove.eq_read_of_readOf? {move : ThreadMove} {run : Nat} {result : ReadResult}
    (h : move.readOf? run = some result) : move = .read run result := by
  cases move with
  | read other _ =>
    by_cases hother : other = run
    · simpa [readOf?, hother] using h
    · simp [readOf?, hother] at h
  | _ => cases h

namespace Threads

theorem Moved.readOf?_of_copied {threads : Threads} {move : ThreadMove} {step : ThreadStep}
    {run : Nat} {content : Copied} (h : Moved threads move step)
    (copied : .copied run content ∈ step.events) : move.readOf? run = none := by
  cases h with
  | read => exact absurd copied List.not_mem_nil
  | _ => rfl

/-- Output is drained while the run goes on, and only when its reader says that it is done. -/
theorem ongoing_of_drained {threads : Threads} {stopping : Bool} {step : ThreadStep}
    (made : threads.advance (.task stopping (.run .drained)) = some step) :
    threads.task.phase.Ongoing ∧ threads.task.managed.isDrained = true := by
  cases moved_of_advance made with
  | task moved own =>
    cases moved with
    | run at_ h =>
      cases h with
      | drained waited hdrained =>
        rw [at_]
        exact ⟨trivial, hdrained⟩

namespace Execution

variable {managed : Managed} {earlier : List ThreadTransition} {transition : ThreadTransition}
  {run : Nat}

/-- A line of output was written because data was read before. -/
theorem exists_data_of_line {line : Bytes} (fresh : managed.Fresh)
    (before : Execution (.start managed) earlier transition.before)
    (made : transition.before.advance transition.move = some transition.step)
    (h : .copied run (.line line) ∈ transition.step.events) :
    ∃ chunk, .data chunk ∈ readsOf run earlier ∧ chunk ≠ [] := by
  have hflow := Threads.Execution.flow fresh (before.tail _ made) run
  rw [readsOf_append_singleton, (moved_of_advance made).readOf?_of_copied h, Option.toList_none,
    List.append_nil] at hflow
  have hline : .copied run (.line line) ∈ threadEvents (earlier ++ [transition]) := by
    rw [threadEvents_append, threadEvents_singleton]
    exact List.mem_append_right _ h
  exact Reader.exists_data_of_line_mem_copy rfl (hflow.mem_copy (mem_copiedOf.mpr hline))

/-- A child was started because the run had said so before. -/
theorem exists_running_of_spawned {pid : UInt32}
    (before : Execution (.start managed) earlier transition.before)
    (made : transition.before.advance transition.move = some transition.step)
    (spawned : transition.Tells run (.spawned pid)) :
    ∃ first ∈ earlier, first.Tells run (.wrote .running) := by
  obtain ⟨hchannels, hspawned⟩ := spawned
  have at_ : transition.before.task.phase = .running .launching := by
    rcases (moved_of_advance made).task_or_aside with
      ⟨_, _, _, moved, _, _, hevents⟩ | ⟨_, _, hnone, _⟩
    · exact moved.launching_of_spawned (hevents ▸ hspawned)
    · exact absurd hspawned (hnone pid)
  obtain ⟨first, hfirst, hsame, hsaid⟩ := before.announced at_
  exact ⟨first, hfirst, hsame.trans hchannels, hsaid⟩

end Execution

end Threads

/-- The lines of every process come in order, however its threads are interleaved. -/
theorem output_in_order {managed : Managed} (fresh : managed.Fresh)
    {past : List ThreadTransition} {threads : Threads}
    (execution : Threads.Execution (.start managed) past threads) (fed : FedByChildren past) :
    OutputInOrder past threads := by
  constructor
  case announced =>
    rintro earlier transition later rfl run line hline
    obtain ⟨before, made, _⟩ := execution.split
    obtain ⟨chunk, hchunk, hne⟩ := Threads.Execution.exists_data_of_line fresh before made hline
    obtain ⟨reading, hreading, hread⟩ := List.mem_filterMap.mp hchunk
    obtain ⟨front, between, rfl⟩ := List.append_of_mem hreading
    obtain ⟨starting, hstarting, pid, hspawned⟩ := fed front reading _ (List.append_assoc ..) run
      chunk (ThreadMove.eq_read_of_readOf? hread) hne
    obtain ⟨front, after, rfl⟩ := List.append_of_mem hstarting
    simp only [List.append_assoc, List.cons_append] at execution
    obtain ⟨hfront, hmade, _⟩ := execution.split
    obtain ⟨first, hfirst, hsaid⟩ := Threads.Execution.exists_running_of_spawned hfront hmade hspawned
    exact ⟨first, by simp [hfirst], hsaid⟩
  case drained =>
    rintro earlier transition later rfl stopping hmove
    obtain ⟨before, made, rest⟩ := execution.split
    obtain ⟨hongoing, hdrained⟩ := Threads.ongoing_of_drained (hmove ▸ made)
    obtain ⟨hopened, hsilent⟩ := (Threads.Execution.unreported before).ongoing hongoing
    obtain ⟨run, hchannels⟩ := Nat.exists_eq_succ_of_ne_zero (Nat.ne_of_gt hopened)
    have hflow := Threads.Execution.flow fresh before run
    have hdone := Threads.done_of_hasTold hflow (Threads.hasTold_of_isDrained hchannels hdrained)
    obtain ⟨hstays, hnone⟩ := Threads.Execution.done ((Trace.refl.tail _ made).trans rest) hdone
    refine ⟨run, hchannels, hdone.whole hflow, ?_, hnone, hstays, fun pipe expired ↦ ?_⟩
    · rintro other hother notice ⟨hsame, hsaid⟩
      exact hsilent other hother (hsame.trans hchannels.symm) notice hsaid
    · rw [hstays.hasTold]
      exact pipe.drain?_done expired
  case drainedAgain =>
    rintro run _ after piped earlier transition later rfl answered
    exact Piped.Execution.drainedForGood fresh execution piped answered

/-- The child writes a line and a half and exits, and its output is drained. -/
def ThreadMove.ending : List ThreadMove :=
  [.read 0 (.data [97, 10, 98]), .task false (.run (.reap (.ok (.exited 0)))), .write 0,
    .task false (.run .clear), .settle 0, .read 0 .ended, .task false (.run .publish), .write 0,
    .settle 0, .task false (.run .drained), .task false (.run .report)]

/-- A process that writes a line and a half and exits. -/
theorem output_in_order_sleeper :
    ∃ past threads,
      Threads.Execution (.start (.ofSpec (.sleeper .terminate .never) 0 .pipe)) past threads ∧
        copiedOf 0 (threadEvents past) = [.line [97], .line [98]] ∧
          OutputInOrder past threads := by
  have hfollow : (Threads.start (.ofSpec (.sleeper .terminate .never) 0 .pipe)).follow
    (ThreadMove.opening ++ ThreadMove.ending) = some (_, _) := rfl
  have run := Trace.of_follow hfollow
  have hspawned : ∀ opened ∈ (Threads.start (.ofSpec (.sleeper .terminate .never) 0 .pipe)).follow
    ThreadMove.opening, ∃ first ∈ opened.1, first.Tells 0 (.spawned 7) := by decide +kernel
  have fed := fedByChildren_of_follow hfollow (by simp [ThreadMove.opening])
    fun opened hopened run chunk h ↦ by
      simp [ThreadMove.ending] at h
      obtain ⟨rfl, _⟩ := h
      exact ⟨7, hspawned opened hopened⟩
  exact ⟨_, _, run, rfl, output_in_order ⟨_, _, _, rfl⟩ run fed⟩

end Supervision
