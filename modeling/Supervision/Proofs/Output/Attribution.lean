import Mathlib.Data.List.Perm.Basic
import Supervision.Proofs.Output.Lines
import Supervision.Proofs.Output.Records
import Supervision.Proofs.Text.OneLine

/-!
# Lines of a shared sink

Without colours a call writes its line and a line feed: the padded name of its source, a bar and what
it has to say.  When neither the name nor the rest holds a line feed, the bytes in the sink fall into
lines that are those of the calls, each call having one, and the beginning of the line under way.
-/

namespace Supervision.Output

/-- What stands in front of the lines of a source, uncoloured. -/
def Multiplexer.label (output : Multiplexer) (source : Source) : Bytes :=
  output.paddedName source ++ ascii " | "

namespace Call

def source : Call → Source
  | line source _ | status source _ | error source _ => source

/-- What the line says, uncoloured. -/
def content : Call → Bytes
  | line _ content => content
  | status _ message | error _ message => Text.Utf8.encode message

/-- The line that the call writes, uncoloured. -/
def text (output : Multiplexer) (call : Call) : Bytes := output.label call.source ++ call.content

/-- Neither the name of the source nor what the line says holds a line feed. -/
structure OneLine (call : Call) : Prop where
  name : Text.OneLine call.source.name
  content : lineFeed ∉ call.content

/-- Without colours a record is the text of its line and a line feed. -/
theorem record_eq {output : Multiplexer} (uncoloured : output.colorize = false) (call : Call) :
    call.record output = call.text output ++ [lineFeed] := by
  cases call <;>
    simp [record, Multiplexer.record, Multiplexer.statusLine, Multiplexer.errorLine, uncoloured,
      text, source, content, Multiplexer.label, lineFeed]

/-- What is in the sink is of no account for a record. -/
theorem record_sink (output : Multiplexer) (sink : Sink) (call : Call) :
    call.record { output with sink } = call.record output := by
  cases call <;> rfl

theorem OneLine.lineFeed_not_mem_text {call : Call} (oneLine : call.OneLine)
    (output : Multiplexer) : lineFeed ∉ call.text output := by
  have hname := Text.lineFeed_not_mem_encode.mpr oneLine.name
  have hblank : ∀ count, lineFeed ∉ List.replicate count (0x20 : UInt8) := by
    intro count hmem
    exact absurd (List.eq_of_mem_replicate hmem) (by decide)
  have hbar : lineFeed ∉ ascii " | " := Text.lineFeed_not_mem_encode.mpr (by decide)
  simp only [text, Multiplexer.label, Multiplexer.paddedName, List.mem_append, not_or]
  exact ⟨⟨⟨hname, hblank _⟩, hbar⟩, oneLine.content⟩

end Call

def SharingMove.call? : SharingMove → Option Call
  | call _ made => some made
  | _ => none

def madeCalls (moves : List SharingMove) : List Call := moves.filterMap SharingMove.call?

theorem madeCalls_append_singleton (moves : List SharingMove) (move : SharingMove) :
    madeCalls (moves ++ [move]) = madeCalls moves ++ move.call?.toList := by
  cases h : move.call? <;> simp [madeCalls, h]

namespace Sharing

/-- A multiplexer and writers of which none makes a call. -/
def ofOutput (output : Multiplexer) (writers : Nat) : Sharing :=
  ⟨output, none, List.replicate writers .idle⟩

/-! ## Records of all writers -/

/-- The records of the calls that are not completed. -/
def pending (sharing : Sharing) : List Bytes := sharing.writers.flatMap WriterPhase.pending

theorem mem_pending {sharing : Sharing} {writer : Nat} {phase : WriterPhase} {record : Bytes}
    (present : sharing.writers[writer]? = some phase) (h : record ∈ phase.pending) :
    record ∈ sharing.pending :=
  List.mem_flatMap.mpr ⟨phase, List.mem_of_getElem? present, h⟩

/-- Where no writer makes a call none is pending. -/
theorem pending_eq_nil {sharing : Sharing} (idle : ∀ phase ∈ sharing.writers, phase = .idle) :
    sharing.pending = [] := by
  refine List.flatMap_eq_nil_iff.mpr fun phase hmem ↦ ?_
  rw [idle phase hmem]
  rfl

/-- A writer that goes on changes its own record for another. -/
theorem perm_pending_set {phases : List WriterPhase} {writer : Nat} {before : WriterPhase}
    (present : phases[writer]? = some before) (phase : WriterPhase) :
    (before.pending ++ (phases.set writer phase).flatMap WriterPhase.pending).Perm
      (phase.pending ++ phases.flatMap WriterPhase.pending) := by
  induction phases generalizing writer with
  | nil => simp at present
  | cons first phases ih =>
    cases writer with
    | zero =>
      obtain rfl : first = before := by simpa using present
      simpa using List.perm_append_comm_assoc ..
    | succ writer =>
      have hrest := (ih (by simpa using present)).append_left first.pending
      simp only [List.set_cons_succ, List.flatMap_cons]
      exact (List.perm_append_comm_assoc ..).trans (hrest.trans (List.perm_append_comm_assoc ..))

variable {sharing after : Sharing} {move : SharingMove}

/-- A move takes the record of a new call to those that are not completed, or one of these to those
that are. -/
theorem Moved.recorded (h : Moved sharing move after) :
    ((Transition.completed? ⟨sharing, move, after⟩).toList.map Prod.snd ++ after.pending).Perm
      (move.call?.toList.map (Call.record sharing.output) ++ sharing.pending) := by
  cases h with
  | connected source => rfl
  | called call idle => exact perm_pending_set idle _
  | @locked writer record free waiting =>
    exact (List.perm_append_left_iff [record]).mp (perm_pending_set waiting (.writing record record))
  | @wrote writer record rest acceptance writing unwritten =>
    exact (List.perm_append_left_iff [record]).mp (perm_pending_set writing (.writing record _))
  | @unlocked writer record written =>
    have hcompleted (after : Sharing) :
        Transition.completed? ⟨sharing, .unlock writer, after⟩ = some (writer, record) := by
      simp [Transition.completed?, written]
    rw [hcompleted]
    exact perm_pending_set written .idle

/-- No move of a writer changes how records are put together. -/
theorem Moved.record_eq (h : Moved sharing move after) (own : move.writer?.isSome) (call : Call) :
    call.record after.output = call.record sharing.output := by
  cases h with
  | connected source => cases own
  | wrote acceptance writing unwritten => exact call.record_sink ..
  | _ => rfl

/-- The records of the calls that were made while the writers shared a multiplexer. -/
structure CallsRecorded (output : Multiplexer) (calls : List Call) (past : List Transition)
    (sharing : Sharing) : Prop where
  /-- The sink holds the records of the completed calls, and then part of the record whose writer
  holds the lock. -/
  written : ∃ part, sharing.UnderWay part ∧
    sharing.output.sink.written = ((completed past).map Prod.snd).flatten ++ part
  /-- Nothing is written without the lock. -/
  exclusive : sharing.Exclusive
  /-- Each call has the record that it has for the multiplexer at the start. -/
  unchanged : ∀ call : Call, call.record sharing.output = call.record output
  /-- The calls are those that are completed and those that are not. -/
  recorded : ((completed past).map Prod.snd ++ sharing.pending).Perm
    (calls.map (Call.record output))

theorem callsRecorded_ofOutput {output : Multiplexer} (unwritten : output.sink.written = [])
    (writers : Nat) : CallsRecorded output [] [] (ofOutput output writers) where
  written := ⟨[], .free rfl, unwritten⟩
  exclusive _ _ _ h := absurd (List.eq_of_mem_replicate (List.mem_of_getElem? h)) nofun
  unchanged _ := rfl
  recorded := by
    have hidle : (ofOutput output writers).pending = [] :=
      pending_eq_nil fun _ hmem ↦ List.eq_of_mem_replicate hmem
    rw [hidle]
    rfl

namespace CallsRecorded

variable {output : Multiplexer} {calls : List Call} {past : List Transition}

/-- One move keeps the records of the calls: a call that is made is pending, and a pending one that
is completed is in the sink. -/
theorem advance (recorded : CallsRecorded output calls past sharing)
    (made : sharing.advance move = some after) (own : move.writer?.isSome)
    (accepting : move.accepts = true) :
    CallsRecorded output (calls ++ move.call?.toList) (past ++ [⟨sharing, move, after⟩]) after := by
  have hmoved := moved_of_advance made
  obtain ⟨part, underWay, hwritten⟩ := recorded.written
  obtain ⟨more, hmore, hafter⟩ := hmoved.written accepting recorded.exclusive underWay hwritten
  have hrecords : move.call?.toList.map (Call.record sharing.output) =
      move.call?.toList.map (Call.record output) :=
    List.map_congr_left fun call _ ↦ recorded.unchanged call
  constructor
  case written =>
    refine ⟨more, hmore, ?_⟩
    rw [completed_append_singleton, List.map_append, List.flatten_append]
    exact hafter
  case exclusive => exact hmoved.exclusive recorded.exclusive
  case unchanged => exact fun call ↦ (hmoved.record_eq own call).trans (recorded.unchanged call)
  case recorded =>
    have hnew := hmoved.recorded
    rw [hrecords] at hnew
    rw [completed_append_singleton, List.map_append, List.map_append, List.append_assoc]
    calc
      ((completed past).map Prod.snd ++ _).Perm
          ((completed past).map Prod.snd ++
            (move.call?.toList.map (Call.record output) ++ sharing.pending)) := hnew.append_left _
      List.Perm _ (move.call?.toList.map (Call.record output) ++
          ((completed past).map Prod.snd ++ sharing.pending)) := List.perm_append_comm_assoc ..
      List.Perm _ (move.call?.toList.map (Call.record output) ++ calls.map (Call.record output)) :=
        recorded.recorded.append_left _
      List.Perm _ _ := List.perm_append_comm

theorem of_follow {writers : Nat} {moves : List SharingMove}
    (run : (ofOutput output writers).follow moves = some (past, sharing))
    (unwritten : output.sink.written = []) (own : ∀ move ∈ moves, move.writer?.isSome)
    (accepting : ∀ move ∈ moves, move.accepts = true) :
    CallsRecorded output (madeCalls moves) past sharing := by
  refine Trace.keeps_of_follow
    (motive := fun moves past sharing ↦ CallsRecorded output (madeCalls moves) past sharing) run
    (callsRecorded_ofOutput unwritten writers) fun hmem made recorded ↦ ?_
  rw [madeCalls_append_singleton]
  exact recorded.advance made (own _ hmem) (accepting _ hmem)

end CallsRecorded

/-! ## Lines of all writers -/

/-- The writer that holds the lock has written part of its line, or its line and the line feed. -/
theorem UnderWay.of_lines {part : Bytes} {lines : List Bytes} (underWay : sharing.UnderWay part)
    (h : sharing.pending = lines.map (· ++ [lineFeed])) :
    part = [] ∨ ∃ line ∈ lines, part <+: line ∨ part = line ++ [lineFeed] := by
  cases underWay with
  | free free => exact .inl rfl
  | held left holder writing =>
    have hmem : part ++ left ∈ sharing.pending := mem_pending writing List.mem_cons_self
    rw [h] at hmem
    obtain ⟨line, hline, hrecord⟩ := List.mem_map.mp hmem
    have hbegins : part <+: line ++ [lineFeed] := hrecord ▸ List.prefix_append part left
    exact .inr ⟨line, hline, (List.prefix_concat_iff.mp hbegins).symm⟩

/-- The bytes in the sink of a shared multiplexer as lines, when these calls were made. -/
structure CallsShown (output : Multiplexer) (calls : List Call) (sharing : Sharing)
    (lines : List Bytes) (rest : Bytes) : Prop where
  /-- The bytes fall into these lines, and what follows the last line feed. -/
  split : sharing.output.sink.written.splitOn lineFeed = lines ++ [rest]
  /-- Each line is that of a call of its own. -/
  ofCalls : lines.Subperm (calls.map (Call.text output))
  /-- What follows begins the line of a call. -/
  begun : rest = [] ∨ ∃ call ∈ calls, rest <+: call.text output
  /-- When no call is under way, each call has its line, and nothing follows. -/
  whole : (∀ phase ∈ sharing.writers, phase = .idle) →
    lines.Perm (calls.map (Call.text output)) ∧ rest = []

namespace CallsRecorded

variable {output : Multiplexer} {calls : List Call} {past : List Transition}

/-- The lines of the calls are those of the completed calls and those of the others. -/
theorem exists_lines (recorded : CallsRecorded output calls past sharing)
    (uncoloured : output.colorize = false) :
    ∃ done others : List Bytes, (done ++ others).Perm (calls.map (Call.text output)) ∧
      (completed past).map Prod.snd = done.map (· ++ [lineFeed]) ∧
        sharing.pending = others.map (· ++ [lineFeed]) := by
  have hrecords : calls.map (Call.record output) =
      (calls.map (Call.text output)).map (· ++ [lineFeed]) := by
    rw [List.map_map]
    exact List.map_congr_left fun call _ ↦ Call.record_eq uncoloured call
  have hperm := recorded.recorded
  rw [hrecords] at hperm
  obtain ⟨lines, heq, hlines⟩ := (congrFun₂ (List.eq_map_comp_perm (· ++ [lineFeed])) _ _).mpr hperm
  obtain ⟨done, others, rfl, hdone, hothers⟩ := List.map_eq_append_iff.mp heq.symm
  exact ⟨done, others, hlines, hdone.symm, hothers.symm⟩

end CallsRecorded

/-- Calls show as lines when the bytes are whole lines of theirs, and part of one more. -/
theorem callsShown_of_lines {output : Multiplexer} {calls : List Call} {done others lines : List Bytes}
    {rest : Bytes} (oneLine : ∀ call ∈ calls, call.OneLine)
    (all : (done ++ others).Perm (calls.map (Call.text output)))
    (pending : sharing.pending = others.map (· ++ [lineFeed]))
    (ofCalls : lines.Subperm (done ++ others))
    (begun : rest = [] ∨ ∃ line ∈ done ++ others, rest <+: line)
    (whole : others = [] → lines = done ∧ rest = [])
    (written : lines.flatMap (· ++ [lineFeed]) ++ rest = sharing.output.sink.written) :
    CallsShown output calls sharing lines rest := by
  have hcall : ∀ line ∈ done ++ others, ∃ call ∈ calls, call.text output = line :=
    fun line hline ↦ List.mem_map.mp (all.mem_iff.mp hline)
  have hunbroken : ∀ line ∈ done ++ others, lineFeed ∉ line := by
    intro line hline
    obtain ⟨call, hmem, rfl⟩ := hcall line hline
    exact (oneLine call hmem).lineFeed_not_mem_text output
  constructor
  case split =>
    refine Segmented.splitOn_eq ⟨written, fun line h ↦ hunbroken line (ofCalls.subset h), ?_⟩
    rcases begun with rfl | ⟨line, hline, hbegins⟩
    · exact List.not_mem_nil
    · exact fun hmem ↦ hunbroken line hline (hbegins.subset hmem)
  case ofCalls => exact ofCalls.trans all.subperm
  case begun =>
    refine begun.imp_right fun ⟨line, hline, hbegins⟩ ↦ ?_
    obtain ⟨call, hmem, rfl⟩ := hcall line hline
    exact ⟨call, hmem, hbegins⟩
  case whole =>
    intro idle
    rw [pending_eq_nil idle] at pending
    obtain rfl : others = [] := List.map_eq_nil_iff.mp pending.symm
    obtain ⟨rfl, rfl⟩ := whole rfl
    exact ⟨by simpa using all, rfl⟩

/-- Calls of one line each show as lines.  A writer may be through with its record and still hold the
lock; its line is complete then, though its call is not. -/
theorem CallsRecorded.shown {output : Multiplexer} {calls : List Call} {past : List Transition}
    (recorded : CallsRecorded output calls past sharing) (uncoloured : output.colorize = false)
    (oneLine : ∀ call ∈ calls, call.OneLine) :
    ∃ lines rest, CallsShown output calls sharing lines rest := by
  obtain ⟨done, others, hall, hdone, hothers⟩ := recorded.exists_lines uncoloured
  obtain ⟨part, underWay, hwritten⟩ := recorded.written
  rw [hdone] at hwritten
  have hsublist : done.Subperm (done ++ others) := (List.sublist_append_left ..).subperm
  rcases underWay.of_lines hothers with rfl | ⟨line, hline, hpart⟩
  · exact ⟨done, [], callsShown_of_lines oneLine hall hothers hsublist (.inl rfl)
      (fun _ ↦ ⟨rfl, rfl⟩) hwritten.symm⟩
  have hsome : others ≠ [] := List.ne_nil_of_mem hline
  rcases hpart with hbegins | rfl
  · exact ⟨done, part, callsShown_of_lines oneLine hall hothers hsublist
      (.inr ⟨line, List.mem_append_right done hline, hbegins⟩) (fun h ↦ absurd h hsome)
      hwritten.symm⟩
  · refine ⟨done ++ [line], [], callsShown_of_lines oneLine hall hothers ?_ (.inl rfl)
      (fun h ↦ absurd h hsome) ?_⟩
    · exact (List.subperm_append_left done).mpr (List.singleton_subperm_iff.mpr hline)
    · rw [hwritten]
      simp [List.flatMap_def]

end Sharing

end Supervision.Output
