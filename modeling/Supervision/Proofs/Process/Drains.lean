import Supervision.Proofs.Process.Threads

/-!
# Drains

A reader that is done has written all that it read, and neither writes anything any more nor goes
back to reading.  So a drain of the pipe to it is answered with yes only if all is written, and after
that every drain is answered so at once, whatever the threads do in between.
-/

namespace Supervision

open Output

namespace Threads

variable {threads final : Threads} {move : ThreadMove} {step : ThreadStep} {run : Nat}

/-- The reader of the run is done, and the task sees it. -/
def Done (threads : Threads) (run : Nat) : Prop :=
  threads.copying run = none ∧ ∃ reader, threads.task.managed.readers[run]? = some reader ∧
    reader.finished = true

/-- Where a thread has something to write, the reader is another one. -/
theorem Done.ne_of_copying (done : threads.Done run) {other : Nat} {copying : Copying}
    (at_ : threads.copying other = some copying) : run ≠ other := by
  rintro rfl
  exact Option.some_ne_none _ (at_.symm.trans done.1)

/-- A reader that is done writes nothing any more, and stays so. -/
theorem Moved.done (h : Moved threads move step) (done : threads.Done run) :
    step.threads.Done run ∧ copiedOf run step.events = [] := by
  have hne {other : Nat} {copying : Copying} (at_ : threads.copying other = some copying) :
      run ≠ other := done.ne_of_copying at_
  obtain ⟨idle, reader, present, finished⟩ := done
  cases h with
  | task moved own =>
    refine ⟨⟨idle, reader, ?_, finished⟩, moved.copiedOf_events own run⟩
    rcases moved.readers own with hsame | hopened
    · exact hsame ▸ present
    · obtain ⟨hlt, _⟩ := List.getElem?_eq_some_iff.mp present
      rw [hopened, List.getElem?_append_left hlt, present]
  | interrupted sent free | killed sent free =>
    exact ⟨⟨idle, reader, present, finished⟩, Managed.copiedOf_signal ..⟩
  | @read other _ result _ hpresent reading =>
    have hother : run ≠ other := by
      rintro rfl
      obtain rfl := Option.some.inj (present.symm.trans hpresent)
      exact Bool.false_ne_true (reading.symm.trans finished)
    exact ⟨⟨(if_neg hother).trans idle, reader, present, finished⟩, rfl⟩
  | wrote at_ =>
    refine ⟨⟨(if_neg (hne at_)).trans idle, reader, present, finished⟩, ?_⟩
    simp [copiedOf, Event.copiedOf?, (hne at_).symm]
  | settled at_ =>
    refine ⟨⟨(if_neg (hne at_)).trans idle, reader, ?_, finished⟩, rfl⟩
    exact (List.getElem?_set_ne (hne at_).symm).trans present

/-- Once a reader is done, nothing that the threads do has it write again. -/
theorem Execution.done {future : List ThreadTransition} (h : Execution threads future final)
    (done : threads.Done run) : final.Done run ∧ copiedOf run (threadEvents future) = [] := by
  induction h with
  | refl => exact ⟨done, rfl⟩
  | tail _ move made ih =>
    obtain ⟨hdone, hnone⟩ := (moved_of_advance made).done ih.1
    refine ⟨hdone, ?_⟩
    rw [threadEvents_append, copiedOf_append, ih.2, threadEvents_singleton, hnone]
    rfl

theorem Done.hasTold (done : threads.Done run) : threads.hasTold run = true := by
  obtain ⟨_, reader, present, finished⟩ := done
  rw [Threads.hasTold, present]
  exact finished

/-- A reader has nothing left to write when it says that it is done. -/
theorem done_of_hasTold {reads : List ReadResult} {copies : List Copied}
    (flow : Flow run threads reads copies) (told : threads.hasTold run = true) :
    threads.Done run := by
  unfold hasTold at told
  cases flow with
  | unopened absent =>
    rw [absent] at told
    cases told
  | idle present idle =>
    rw [present] at told
    exact ⟨idle, _, present, told⟩
  | @busy reads _ _ _ present _ goesOn =>
    rw [present] at told
    have finished : (Reader.start.after reads).finished = true := told
    rw [Reader.start, Reader.finished_after] at finished
    obtain ⟨result, hresult, hends⟩ := List.any_eq_true.mp finished
    simp [goesOn result hresult] at hends

/-- A reader that is done has read the end of the stream, and written all of it. -/
theorem Done.whole {reads : List ReadResult} {copies : List Copied}
    (done : threads.Done run) (flow : Flow run threads reads copies) :
    ∃ front last, reads = front ++ [last] ∧ (∀ result ∈ front, result.goesOn = true) ∧
      last.goesOn = false ∧
        copies = Reader.completeLines front ++ last.complaints ++ Reader.partialLine front := by
  obtain ⟨idle, reader, present, finished⟩ := done
  cases flow with
  | unopened absent => simp [absent] at present
  | busy _ at_ => simp [idle] at at_
  | @idle reads hpresent _ goesOn =>
    obtain rfl := Option.some.inj (hpresent.symm.trans present)
    rw [Reader.start, Reader.finished_after] at finished
    rcases List.eq_nil_or_concat reads with rfl | ⟨front, last, rfl⟩
    · simp at finished
    · rw [List.concat_eq_append] at finished goesOn ⊢
      rw [List.dropLast_concat] at goesOn
      have hends : (∃ result ∈ front, result.goesOn = false) ∨ last.goesOn = false := by
        simpa using finished
      have ends : last.goesOn = false := by
        refine hends.resolve_left ?_
        rintro ⟨result, hresult, hends⟩
        exact Bool.false_ne_true (hends.symm.trans (goesOn result hresult))
      exact ⟨front, last, rfl, goesOn, ends, Reader.copy_start goesOn ends []⟩

end Threads

/-! ## Pipes -/

/-- A move of a thread or a drain, as it was made. -/
abbrev PipedTransition := MadeMove Piped PipedMove PipedStep

/-- The threads and the pipe of this run come from the start to where they are by these
transitions. -/
abbrev Piped.Execution (run : Nat) (start : Piped) : List PipedTransition → Piped → Prop :=
  Trace (Piped.advance run) PipedStep.piped start

namespace Piped

variable {managed : Managed} {run : Nat} {piped final : Piped} {move : PipedMove} {step : PipedStep}

inductive Moved (run : Nat) (piped : Piped) : PipedMove → PipedStep → Prop
  | thread {move : ThreadMove} {step : ThreadStep}
      (made : piped.threads.advance move = some step) :
      Moved run piped (.thread move) ⟨{ piped with threads := step.threads }, none⟩
  | heard (expired : Bool) (heard : piped.pipe.awaited = false) :
      Moved run piped (.drain expired) ⟨piped, some true⟩
  | told (expired : Bool) (told : piped.threads.hasTold run = true) :
      Moved run piped (.drain expired) ⟨{ piped with pipe := ⟨false⟩ }, some true⟩
  | expired (untold : piped.threads.hasTold run = false) :
      Moved run piped (.drain true) ⟨piped, some false⟩

/-- A drain that is answered finds that the reader was heard of, that it says it is done, or that
the time is up. -/
theorem moved_of_advance (h : piped.advance run move = some step) : Moved run piped move step := by
  cases move with
  | thread move =>
    obtain ⟨_, made, rfl⟩ := Option.map_eq_some_iff.mp h
    exact .thread made
  | drain expired =>
    obtain ⟨⟨answer, pipe⟩, hdrain, rfl⟩ := Option.map_eq_some_iff.mp h
    unfold Pipe.drain? at hdrain
    split at hdrain
    · cases hdrain
      exact .heard expired (by simpa using ‹(!piped.pipe.awaited) = true›)
    split at hdrain
    · cases hdrain
      exact .told expired ‹_›
    split at hdrain
    · rename_i untold hexpired
      cases hdrain
      subst hexpired
      exact .expired (by simpa using untold)
    · cases hdrain

/-- The threads are those of a fresh process after some moves, and a reader that was heard of is
done. -/
structure Sound (managed : Managed) (run : Nat) (piped : Piped) : Prop where
  reached : ∃ past, Threads.Execution (.start managed) past piped.threads
  honest : piped.pipe.awaited = false → piped.threads.Done run

/-- What a reader has said is so. -/
theorem Sound.done_of_hasTold (fresh : managed.Fresh) (sound : Sound managed run piped)
    (told : piped.threads.hasTold run = true) : piped.threads.Done run := by
  obtain ⟨past, reached⟩ := sound.reached
  exact Threads.done_of_hasTold (Threads.Execution.flow fresh reached run) told

/-- Whatever is done, only a reader that is done is heard of. -/
theorem Sound.advance (fresh : managed.Fresh) (sound : Sound managed run piped)
    (h : Moved run piped move step) : Sound managed run step.piped := by
  cases h with
  | thread made =>
    obtain ⟨past, reached⟩ := sound.reached
    refine ⟨⟨_, reached.tail _ made⟩, fun heard ↦ ?_⟩
    exact ((Threads.moved_of_advance made).done (sound.honest heard)).1
  | heard | expired => exact sound
  | told _ told =>
    have hdone := sound.done_of_hasTold fresh told
    exact ⟨sound.reached, fun _ ↦ hdone⟩

theorem Execution.sound {past : List PipedTransition} (fresh : managed.Fresh)
    (sound : Sound managed run piped) (h : Execution run piped past final) :
    Sound managed run final := by
  induction h with
  | refl => exact sound
  | tail _ move made ih => exact ih.advance fresh (moved_of_advance made)

/-- A drain is answered with yes only if the reader is done. -/
theorem Moved.done_of_answer (h : Moved run piped move step) (fresh : managed.Fresh)
    (sound : Sound managed run piped) (answered : step.answer = some true) :
    piped.threads.Done run ∧ step.piped.threads = piped.threads := by
  cases h with
  | thread | expired => cases answered
  | heard _ heard => exact ⟨sound.honest heard, rfl⟩
  | told _ told => exact ⟨sound.done_of_hasTold fresh told, rfl⟩

/-- No drain is answered with no when the reader is done, and the reader stays so. -/
theorem Moved.done (h : Moved run piped move step) (done : piped.threads.Done run) :
    step.piped.threads.Done run ∧ ∀ answer, step.answer = some answer → answer = true := by
  cases h with
  | thread made => exact ⟨((Threads.moved_of_advance made).done done).1, nofun⟩
  | heard | told => exact ⟨done, fun _ h ↦ (Option.some.inj h).symm⟩
  | expired untold => exact absurd done.hasTold (untold ▸ Bool.false_ne_true)

/-- Once a reader is done no drain is answered otherwise. -/
theorem Execution.done {past : List PipedTransition} (h : Execution run piped past final)
    (done : piped.threads.Done run) : final.threads.Done run ∧
      ∀ transition ∈ past, ∀ answer, transition.step.answer = some answer → answer = true := by
  induction h with
  | refl => exact ⟨done, List.forall_mem_nil _⟩
  | tail _ move made ih =>
    obtain ⟨hdone, hanswers⟩ := ih
    obtain ⟨hnext, hanswer⟩ := (moved_of_advance made).done hdone
    exact ⟨hnext, List.forall_mem_append.mpr ⟨hanswers, List.forall_mem_singleton.mpr hanswer⟩⟩

end Piped

/-- What is so of the pipe to a reader once a drain of it was answered with yes. -/
structure DrainedForGood (run : Nat) (transition : PipedTransition) (later : List PipedTransition)
    (after : Piped) : Prop where
  /-- The reader was done. -/
  done : transition.before.threads.Done run
  /-- No later drain is answered otherwise. -/
  kept : ∀ other ∈ later, ∀ answer, other.step.answer = some answer → answer = true
  /-- The next drain is answered so at once. -/
  atOnce : ∀ expired, ∃ step, after.advance run (.drain expired) = some step ∧
    step.answer = some true

/-- Once a drain was answered with yes, so are all drains, however they and the moves of the threads
come between each other. -/
theorem Piped.Execution.drainedForGood {managed : Managed} {run : Nat} {threads : Threads}
    {past : List ThreadTransition} {earlier later : List PipedTransition}
    {transition : PipedTransition} {after : Piped} (fresh : managed.Fresh)
    (reached : Threads.Execution (.start managed) past threads)
    (h : Piped.Execution run ⟨threads, .start⟩ (earlier ++ transition :: later) after)
    (answered : transition.step.answer = some true) :
    DrainedForGood run transition later after := by
  have hstart : Sound managed run ⟨threads, .start⟩ := ⟨⟨past, reached⟩, nofun⟩
  obtain ⟨before, made, rest⟩ := h.split
  have hsound := Execution.sound fresh hstart before
  obtain ⟨hdone, hsame⟩ := (moved_of_advance made).done_of_answer fresh hsound answered
  obtain ⟨hafter, hkept⟩ := Execution.done rest (hsame.symm ▸ hdone)
  refine ⟨hdone, hkept, fun expired ↦ ⟨⟨{ after with pipe := ⟨false⟩ }, some true⟩, ?_, rfl⟩⟩
  rw [Piped.advance, hafter.hasTold, Pipe.drain?_done, Option.map_some]

end Supervision
