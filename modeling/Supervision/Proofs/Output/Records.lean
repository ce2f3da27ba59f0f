import Mathlib.Logic.Relation
import Supervision.Output.Sharing
import Supervision.Proofs.Traces

/-!
# Records stay whole

However the moves of many writers come between each other, the bytes in the sink are whole records
one after another, and behind them at most part of the record whose writer holds the lock.  Every
call that is through has written one record, and the records of one writer stand in the order of its
calls.
-/

namespace Supervision.Output

/-! ## One write -/

/-- Does the sink take some of what it is given? -/
def Acceptance.isPositive : Acceptance → Bool
  | everything => true
  | atMost count => 0 < count
  | refuses => false

def SharingMove.writer? : SharingMove → Option Nat
  | connect _ => none
  | call writer _ | lock writer | write writer _ | unlock writer => some writer

/-- Does the sink take some of what it is given in the move, if it is written to? -/
def SharingMove.accepts : SharingMove → Bool
  | write _ acceptance => acceptance.isPositive
  | _ => true

namespace Sink

theorem written_writeSome (sink : Sink) (bytes : Bytes) :
    (sink.writeSome bytes).2.written = sink.written ++ bytes.take (sink.taken bytes) := by
  simp [written, writeSome]

/-- A sink that takes some bytes takes at least one of those that are left. -/
theorem taken_pos {sink : Sink} {bytes : Bytes} (positive : sink.acceptance.isPositive = true)
    (unwritten : bytes ≠ []) : 0 < sink.taken bytes := by
  have hlength : 0 < bytes.length := List.length_pos_iff.mpr unwritten
  unfold taken
  cases hacceptance : sink.acceptance with
  | everything => exact hlength
  | atMost count =>
    rw [hacceptance] at positive
    have hcount : 0 < count := by simpa [Acceptance.isPositive] using positive
    change 0 < (bytes.take count).length
    rw [List.length_take]
    exact Nat.lt_min.mpr ⟨hcount, hlength⟩
  | refuses =>
    rw [hacceptance] at positive
    cases positive

/-- A write that is not refused moves some bytes from the rest to the sink. -/
theorem offer_of_isPositive (sink : Sink) {bytes : Bytes}
    (positive : sink.acceptance.isPositive = true) (unwritten : bytes ≠ []) :
    ∃ written, bytes = written ++ (sink.offer bytes).1 ∧
      (sink.offer bytes).2.written = sink.written ++ written := by
  have htaken : sink.taken bytes ≠ 0 := Nat.ne_of_gt (taken_pos positive unwritten)
  unfold offer
  rw [if_neg htaken]
  exact ⟨_, (List.take_append_drop (sink.taken bytes) bytes).symm, sink.written_writeSome bytes⟩

end Sink

/-- The record of a call that is not completed. -/
def WriterPhase.pending : WriterPhase → List Bytes
  | idle => []
  | waiting record | writing record _ => [record]

namespace Sharing

/-! ## The moves, case by case -/

inductive Moved (sharing : Sharing) : SharingMove → Sharing → Prop
  | connected (source : Source) : Moved sharing (.connect source)
      { sharing with output := sharing.output.connect source }
  | called {writer : Nat} (call : Call) (idle : sharing.writers[writer]? = some .idle) :
      Moved sharing (.call writer call)
        { sharing with
          writers := sharing.writers.set writer (.waiting (call.record sharing.output)) }
  | locked {writer : Nat} {record : Bytes} (free : sharing.holder = none)
      (waiting : sharing.writers[writer]? = some (.waiting record)) :
      Moved sharing (.lock writer)
        { sharing with
          holder := some writer
          writers := sharing.writers.set writer (.writing record record) }
  | wrote {writer : Nat} {record rest : Bytes} (acceptance : Acceptance)
      (writing : sharing.writers[writer]? = some (.writing record rest)) (unwritten : rest ≠ []) :
      Moved sharing (.write writer acceptance) (sharing.writeOnce writer acceptance record rest)
  | unlocked {writer : Nat} {record : Bytes}
      (written : sharing.writers[writer]? = some (.writing record [])) :
      Moved sharing (.unlock writer)
        { sharing with holder := none, writers := sharing.writers.set writer .idle }

theorem moved_of_advance {sharing after : Sharing} {move : SharingMove}
    (h : sharing.advance move = some after) : Moved sharing move after := by
  cases move with
  | connect source => cases h; exact .connected source
  | call writer call =>
    simp only [advance] at h
    split at h
    · cases h; exact .called call ‹_›
    · cases h
  | lock writer =>
    simp only [advance] at h
    split at h
    · cases h; exact .locked ‹_› ‹_›
    · cases h
  | write writer acceptance =>
    simp only [advance] at h
    split at h
    · cases h; exact .wrote acceptance ‹_› (List.cons_ne_nil _ _)
    · cases h
  | unlock writer =>
    simp only [advance] at h
    split at h
    · cases h; exact .unlocked ‹_›
    · cases h

/-- A write that takes something moves it from the rest of the record to the sink. -/
theorem writeOnce_of_isPositive {acceptance : Acceptance} {rest : Bytes} (sharing : Sharing)
    (writer : Nat) (record : Bytes) (positive : acceptance.isPositive = true)
    (unwritten : rest ≠ []) :
    ∃ more left sink, rest = more ++ left ∧
      sink.written = sharing.output.sink.written ++ more ∧
        sharing.writeOnce writer acceptance record rest =
          { sharing with
            output := { sharing.output with sink }
            writers := sharing.writers.set writer (.writing record left) } := by
  let sink : Sink := { sharing.output.sink with acceptance }
  obtain ⟨more, hrest, hmore⟩ := sink.offer_of_isPositive positive unwritten
  exact ⟨more, (sink.offer rest).1, (sink.offer rest).2, hrest, hmore, rfl⟩

/-! ## Runs -/

/-- A move as it was made, and what it left. -/
abbrev Transition := MadeMove Sharing SharingMove Sharing

abbrev follow (sharing : Sharing) : List SharingMove → Option (List Transition × Sharing) :=
  Trace.follow advance id sharing

/-- The record that a writer has put together in a move. -/
def Transition.calledBy? (writer : Nat) (transition : Transition) : Option Bytes :=
  match transition.move with
  | .call other call => if other = writer then some (call.record transition.before.output) else none
  | _ => none

/-- The records of the calls of one writer, in order. -/
def calledBy (writer : Nat) (past : List Transition) : List Bytes :=
  past.filterMap (Transition.calledBy? writer)

/-- The writer that was through with its call in a move, and the record of the call. -/
def Transition.completed? (transition : Transition) : Option (Nat × Bytes) :=
  match transition.move with
  | .unlock writer =>
    match transition.before.writers[writer]? with
    | some (.writing record _) => some (writer, record)
    | _ => none
  | _ => none

/-- The writers and the records of the calls that were completed, in order. -/
def completed (past : List Transition) : List (Nat × Bytes) :=
  past.filterMap Transition.completed?

def completedBy (writer : Nat) (past : List Transition) : List Bytes :=
  ((completed past).filter fun entry ↦ entry.1 = writer).map Prod.snd

def Transition.source? (transition : Transition) : Option Source :=
  match transition.move with
  | .connect source => some source
  | _ => none

def widest (past : List Transition) : Nat :=
  (past.filterMap Transition.source?).foldl
    (fun width source ↦ max width source.name.utf8ByteSize) 0

section

variable (writer : Nat) (past : List Transition) (transition : Transition)

theorem calledBy_append_singleton : calledBy writer (past ++ [transition]) =
    calledBy writer past ++ (transition.calledBy? writer).toList := by
  cases h : transition.calledBy? writer <;> simp [calledBy, h]

theorem completed_append_singleton :
    completed (past ++ [transition]) = completed past ++ transition.completed?.toList := by
  cases h : transition.completed? <;> simp [completed, h]

theorem completedBy_append_singleton : completedBy writer (past ++ [transition]) =
    completedBy writer past ++
      (transition.completed?.toList.filter fun entry ↦ entry.1 = writer).map Prod.snd := by
  rw [completedBy, completed_append_singleton, List.filter_append, List.map_append]
  rfl

theorem widest_append_singleton : widest (past ++ [transition]) =
    transition.source?.toList.foldl (fun width source ↦ max width source.name.utf8ByteSize)
      (widest past) := by
  cases h : transition.source? <;> simp [widest, h]

end

/-! ## What one move keeps -/

/-- The record of the call that a writer has not completed, if it makes one. -/
def pendingOf (sharing : Sharing) (writer : Nat) : List Bytes :=
  match sharing.writers[writer]? with
  | some phase => phase.pending
  | none => []

/-- So much of the record of the writer that holds the lock is in the sink. -/
inductive UnderWay (sharing : Sharing) : Bytes → Prop
  | free (free : sharing.holder = none) : UnderWay sharing []
  | held {writer : Nat} {part : Bytes} (rest : Bytes) (holder : sharing.holder = some writer)
      (writing : sharing.writers[writer]? = some (.writing (part ++ rest) rest)) :
      UnderWay sharing part

/-- A writer writes only while it holds the lock. -/
def Exclusive (sharing : Sharing) : Prop :=
  ∀ writer record rest, sharing.writers[writer]? = some (.writing record rest) →
    sharing.holder = some writer

theorem getElem?_set_of_present {phases : List WriterPhase} {writer : Nat} {before : WriterPhase}
    (present : phases[writer]? = some before) (phase : WriterPhase) (other : Nat) :
    (phases.set writer phase)[other]? = if writer = other then some phase else phases[other]? := by
  obtain ⟨hlt, _⟩ := List.getElem?_eq_some_iff.mp present
  rw [List.getElem?_set]
  simp [hlt]

variable {sharing after : Sharing} {move : SharingMove}

/-- A writer begins to write only when the lock is free, and no other can hold the lock that one
gives back. -/
theorem Moved.exclusive (h : Moved sharing move after) (exclusive : sharing.Exclusive) :
    after.Exclusive := by
  intro other record rest hother
  cases h with
  | connected source => exact exclusive other record rest hother
  | called call present =>
    rw [getElem?_set_of_present present] at hother
    split at hother
    · cases hother
    · exact exclusive other record rest hother
  | locked free present =>
    rw [getElem?_set_of_present present] at hother
    split at hother
    · exact congrArg some ‹_›
    · exact absurd (free.symm.trans (exclusive other record rest hother)) nofun
  | wrote acceptance present unwritten =>
    have hholder := exclusive _ _ _ present
    simp only [writeOnce] at hother ⊢
    rw [getElem?_set_of_present present] at hother
    split at hother
    · exact hholder.trans (congrArg some ‹_›)
    · exact exclusive other record rest hother
  | unlocked present =>
    rw [getElem?_set_of_present present] at hother
    split at hother
    · cases hother
    · have hholder := exclusive _ _ _ present
      have hsame := hholder.symm.trans (exclusive other record rest hother)
      exact absurd (Option.some.inj hsame) ‹_›

/-- A part of a record stays where it is while another writer goes on with its call. -/
theorem UnderWay.set {part : Bytes} {writer : Nat} {before : WriterPhase}
    (underWay : sharing.UnderWay part) (present : sharing.writers[writer]? = some before)
    (quiet : ∀ record rest, before ≠ .writing record rest) (phase : WriterPhase) :
    UnderWay { sharing with writers := sharing.writers.set writer phase } part := by
  cases underWay with
  | free free => exact .free free
  | @held holder _ rest hholder writing =>
    have hother : writer ≠ holder := by
      rintro rfl
      exact quiet _ _ (Option.some.inj (present.symm.trans writing))
    refine .held rest hholder ?_
    rw [getElem?_set_of_present present, if_neg hother]
    exact writing

/-- The writer that writes has so much of its record in the sink. -/
theorem UnderWay.eq_append {part record rest : Bytes} {writer : Nat}
    (underWay : sharing.UnderWay part) (exclusive : sharing.Exclusive)
    (writing : sharing.writers[writer]? = some (.writing record rest)) : record = part ++ rest := by
  have hholder := exclusive writer record rest writing
  cases underWay with
  | free free => exact absurd (free.symm.trans hholder) nofun
  | held _ hheld hwriting =>
    obtain rfl := Option.some.inj (hheld.symm.trans hholder)
    have hphase := Option.some.inj (writing.symm.trans hwriting)
    obtain ⟨rfl, rfl⟩ := WriterPhase.writing.inj hphase
    rfl

/-- A move leaves whole records in the sink, and part of the one under way. -/
theorem Moved.written {records : Bytes} {part : Bytes} (h : Moved sharing move after)
    (accepting : move.accepts = true) (exclusive : sharing.Exclusive)
    (underWay : sharing.UnderWay part)
    (written : sharing.output.sink.written = records ++ part) :
    ∃ part, after.UnderWay part ∧ after.output.sink.written =
      records ++ ((Transition.completed? ⟨sharing, move, after⟩).toList.map Prod.snd).flatten ++ part := by
  have hnone (bytes : Bytes) (h : sharing.output.sink.written = records ++ bytes) :
      sharing.output.sink.written = records ++ [].flatten ++ bytes := by simpa using h
  cases h with
  | connected source =>
    refine ⟨part, ?_, hnone part written⟩
    cases underWay with
    | free free => exact .free free
    | held rest holder writing => exact .held rest holder writing
  | called call present => exact ⟨part, underWay.set present nofun _, hnone part written⟩
  | @locked writer record free present =>
    cases underWay with
    | held _ holder _ => exact absurd (free.symm.trans holder) nofun
    | free =>
      refine ⟨[], .held record rfl ?_, hnone [] written⟩
      rw [getElem?_set_of_present present, if_pos rfl]
      rfl
  | @wrote writer record rest acceptance present unwritten =>
    obtain rfl := underWay.eq_append exclusive present
    obtain ⟨more, left, sink, rfl, hsink, hafter⟩ :=
      sharing.writeOnce_of_isPositive writer (part ++ rest) accepting unwritten
    rw [hafter]
    refine ⟨part ++ more, .held left (exclusive _ _ _ present) ?_, ?_⟩
    · rw [getElem?_set_of_present present, if_pos rfl, List.append_assoc]
    · simp [Transition.completed?, hsink, written]
  | @unlocked writer record present =>
    obtain rfl := underWay.eq_append exclusive present
    refine ⟨[], .free rfl, ?_⟩
    simpa [Transition.completed?, present] using written

theorem pendingOf_of_present {writer : Nat} {phase : WriterPhase}
    (present : sharing.writers[writer]? = some phase) :
    sharing.pendingOf writer = phase.pending := by
  rw [pendingOf, present]

theorem pendingOf_set {writer other : Nat} {before phase : WriterPhase}
    (present : sharing.writers[writer]? = some before)
    (set : after.writers = sharing.writers.set writer phase) :
    after.pendingOf other = if writer = other then phase.pending else sharing.pendingOf other := by
  rw [pendingOf, set, getElem?_set_of_present present]
  by_cases h : writer = other
  · simp [h]
  · simp [h, pendingOf]

/-- A move takes the records of every writer on in the order of its calls. -/
theorem Moved.ordered {past : List Transition} {other : Nat} (h : Moved sharing move after)
    (ordered : calledBy other past = completedBy other past ++ sharing.pendingOf other) :
    calledBy other (past ++ [⟨sharing, move, after⟩]) =
      completedBy other (past ++ [⟨sharing, move, after⟩]) ++ after.pendingOf other := by
  have hset := @pendingOf_set sharing after
  rw [calledBy_append_singleton, completedBy_append_singleton, ordered]
  cases h with
  | connected source =>
    have hpending : sharing.pendingOf other =
        pendingOf { sharing with output := sharing.output.connect source } other := rfl
    simp [Transition.calledBy?, Transition.completed?, hpending]
  | @called writer _ present | @locked writer _ _ present | @wrote writer _ _ _ present _
  | @unlocked writer _ present =>
    rw [hset present rfl]
    by_cases hwriter : writer = other
    · subst hwriter
      simp [Transition.calledBy?, Transition.completed?, pendingOf_of_present present,
        WriterPhase.pending, present]
    · simp [Transition.calledBy?, Transition.completed?, hwriter, present]

theorem Moved.width {past : List Transition} (h : Moved sharing move after)
    (width : sharing.output.width = widest past) :
    after.output.width = widest (past ++ [⟨sharing, move, after⟩]) := by
  rw [widest_append_singleton, ← width]
  cases h <;> rfl

/-! ## What a run keeps -/

/-- The records in the sink of a shared multiplexer after some moves. -/
structure RecordsWhole (past : List Transition) (sharing : Sharing) : Prop where
  /-- The sink holds the records of the completed calls, and then part of the record whose writer
  holds the lock. -/
  written : ∃ part, sharing.UnderWay part ∧
    sharing.output.sink.written = ((completed past).map Prod.snd).flatten ++ part
  /-- Nothing is written without the lock. -/
  exclusive : sharing.Exclusive
  /-- Each call of a writer has written its one record, in the order of the calls; only the last
  call may not be completed. -/
  ordered : ∀ writer, calledBy writer past = completedBy writer past ++ sharing.pendingOf writer
  /-- Records are put together for the sources that are connected by then. -/
  width : sharing.output.width = widest past

theorem recordsWhole_start (colorize : Bool) (acceptance : Acceptance) (writers : Nat) :
    RecordsWhole [] (start colorize acceptance writers) where
  written := ⟨[], .free rfl, rfl⟩
  exclusive writer record rest h := by
    have hphase := List.mem_of_getElem? h
    exact absurd (List.eq_of_mem_replicate hphase) nofun
  ordered writer := by
    have hpending : (start colorize acceptance writers).pendingOf writer = [] := by
      unfold pendingOf
      split
      · rename_i phase h
        rw [List.eq_of_mem_replicate (List.mem_of_getElem? h)]
        rfl
      · rfl
    rw [hpending]
    rfl
  width := rfl

/-- A move that writes goes on with the record of the writer that holds the lock, and the lock is
given back only when the record is all there. -/
theorem RecordsWhole.advance {past : List Transition} (whole : RecordsWhole past sharing)
    (made : sharing.advance move = some after) (accepting : move.accepts = true) :
    RecordsWhole (past ++ [⟨sharing, move, after⟩]) after := by
  have hmoved := moved_of_advance made
  obtain ⟨part, underWay, hwritten⟩ := whole.written
  obtain ⟨more, hmore, hafter⟩ := hmoved.written accepting whole.exclusive underWay hwritten
  refine ⟨⟨more, hmore, ?_⟩, hmoved.exclusive whole.exclusive,
    fun writer ↦ hmoved.ordered (whole.ordered writer), hmoved.width whole.width⟩
  rw [completed_append_singleton, List.map_append, List.flatten_append]
  exact hafter

/-! ## Calls that nothing comes between -/

/-- Only one writer moves. -/
abbrev Alone (writer : Nat) : Sharing → Sharing → Prop :=
  Relation.ReflTransGen fun before after ↦
    ∃ move, SharingMove.writer? move = some writer ∧ before.advance move = some after

theorem advance_write {writer : Nat} {record rest : Bytes} (acceptance : Acceptance)
    (present : sharing.writers[writer]? = some (.writing record rest)) (unwritten : rest ≠ []) :
    sharing.advance (.write writer acceptance) =
      some (sharing.writeOnce writer acceptance record rest) := by
  obtain ⟨byte, rest, rfl⟩ := List.exists_cons_of_ne_nil unwritten
  simp [advance, present]

theorem set_of_present {writer : Nat} {phase : WriterPhase}
    (present : sharing.writers[writer]? = some phase) :
    sharing.writers.set writer phase = sharing.writers := by
  obtain ⟨hlt, rfl⟩ := List.getElem?_eq_some_iff.mp present
  exact List.set_getElem_self hlt

/-- A writer that has the lock comes to the end of its record, as the sink takes it. -/
theorem alone_writeAll {writer : Nat} {record rest : Bytes} {sink : Sink} (sharing : Sharing)
    (at_ : sharing.output.sink = sink)
    (present : sharing.writers[writer]? = some (.writing record rest)) :
    sharing.Alone writer
      { sharing with
        output := { sharing.output with sink := sink.writeAll rest }
        writers := sharing.writers.set writer (.writing record []) } := by
  induction sink, rest using Sink.writeAll.induct generalizing sharing with
  | case1 sink =>
    subst at_
    rw [Sink.writeAll, dif_pos rfl, set_of_present present]
  | case2 sink rest unwritten none =>
    subst at_
    refine .head ⟨_, rfl, advance_write sharing.output.sink.acceptance present unwritten⟩ ?_
    rw [Sink.writeAll, dif_neg unwritten, dif_pos none, writeOnce, Sink.offer, if_pos none]
  | case3 sink rest unwritten some ih =>
    subst at_
    refine .head ⟨_, rfl, advance_write sharing.output.sink.acceptance present unwritten⟩ ?_
    rw [Sink.writeAll, dif_neg unwritten, dif_neg some, writeOnce, Sink.offer, if_neg some]
    have hthen := ih
      { sharing with
        output := { sharing.output with sink := (sharing.output.sink.writeSome rest).2 }
        writers := sharing.writers.set writer
          (.writing record (sharing.output.sink.writeSome rest).1) } rfl ?_
    · simpa using hthen
    · rw [getElem?_set_of_present present, if_pos rfl]

/-- A call that nothing comes between is the call of the multiplexer. -/
theorem alone_write {writer : Nat} (call : Call) (free : sharing.holder = none)
    (idle : sharing.writers[writer]? = some .idle) :
    sharing.Alone writer { sharing with output := call.write sharing.output } := by
  let record := call.record sharing.output
  have hphase (phase : WriterPhase) : (sharing.writers.set writer phase)[writer]? = some phase := by
    rw [getElem?_set_of_present idle, if_pos rfl]
  let called : Sharing :=
    { sharing with writers := sharing.writers.set writer (.waiting record) }
  have hcalled : sharing.advance (.call writer call) = some called := by
    simp [advance, idle, called, record]
  let locked : Sharing :=
    { sharing with
      holder := some writer
      writers := sharing.writers.set writer (.writing record record) }
  have hlocked : called.advance (.lock writer) = some locked := by
    simp [advance, called, free, hphase, locked]
  let written : Sharing :=
    { locked with
      output := call.write sharing.output
      writers := sharing.writers.set writer (.writing record []) }
  have hwritten : locked.Alone writer written := by
    have hall := locked.alone_writeAll rfl (hphase (.writing record record))
    have hsink : { sharing.output with sink := sharing.output.sink.writeAll record } =
        call.write sharing.output := by
      cases call <;> rfl
    simpa [locked, written, hsink] using hall
  have hunlocked : written.advance (.unlock writer) =
      some { sharing with output := call.write sharing.output } := by
    have hidle := set_of_present idle
    simp [advance, written, hphase, hidle, free]
  have hcall : sharing.Alone writer locked :=
    .head ⟨_, rfl, hcalled⟩ (.single ⟨_, rfl, hlocked⟩)
  exact hcall.trans (hwritten.tail ⟨_, rfl, hunlocked⟩)

/-! ## The whole -/

/-- Records stay whole, however many writers share a multiplexer and however their moves and the
connections of sources come between each other, as long as the sink does not refuse.  A call that
nothing comes between does what the multiplexer does. -/
theorem records_stay_whole {colorize : Bool} {acceptance : Acceptance} {writers : Nat}
    {moves : List SharingMove} {past : List Transition} {sharing : Sharing}
    (run : (start colorize acceptance writers).follow moves = some (past, sharing))
    (accepting : ∀ move ∈ moves, move.accepts = true) :
    RecordsWhole past sharing ∧
      ∀ writer (call : Call), sharing.holder = none → sharing.writers[writer]? = some .idle →
        sharing.Alone writer { sharing with output := call.write sharing.output } := by
  have hwhole : RecordsWhole past sharing :=
    Trace.keeps_of_follow (motive := fun _ past sharing ↦ RecordsWhole past sharing) run
      (recordsWhole_start colorize acceptance writers)
      fun hmem made whole ↦ whole.advance made (accepting _ hmem)
  exact ⟨hwhole, fun writer call free idle ↦ alone_write call free idle⟩

/-- One writer writes its record in two pieces.  Meanwhile the name column grows and the other
writer puts its record together, of which it writes the first bytes. -/
def sample : List SharingMove :=
  [.connect ⟨"a", 2⟩, .call 0 (.line ⟨"a", 2⟩ [0x78]), .connect ⟨"bc", 3⟩, .lock 0,
    .write 0 (.atMost 2), .call 1 (.line ⟨"a", 2⟩ [0x79]), .write 0 .everything, .unlock 0, .lock 1,
    .write 1 (.atMost 3)]

/-- The second record begins behind the first, with a name column for the longer name. -/
theorem records_stay_whole_sample :
    ∃ past sharing, (start false .everything 2).follow sample = some (past, sharing) ∧
      completed past = [(0, ascii "a | x" ++ [0x0a])] ∧
        calledBy 1 past = [ascii "a  | y" ++ [0x0a]] ∧
          sharing.output.sink.written = ascii "a | x" ++ [0x0a] ++ ascii "a  " ∧
            RecordsWhole past sharing := by
  have run := show (start false .everything 2).follow sample = some (_, _) from rfl
  obtain ⟨whole, _⟩ := records_stay_whole run (by decide)
  exact ⟨_, _, run, by decide, by decide, by decide, whole⟩

end Sharing

end Supervision.Output
