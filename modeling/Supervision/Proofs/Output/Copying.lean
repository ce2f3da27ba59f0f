import Supervision.Output.Reader
import Supervision.Proofs.Output.Lines

/-!
# Readers copy whole streams

A reader writes what a line buffer gives out for the chunks that it reads, in order, and when the
stream ends also what the buffer still holds.  Neither interruptions nor the way in which the stream
ends make a difference, but for the line of an error, which stands before the partial line.
-/

namespace Supervision.Output

namespace ReadResult

/-- Is there more to be read after this? -/
def goesOn : ReadResult → Bool
  | data chunk => !chunk.isEmpty
  | ended => false
  | failed errno => errno = .interrupted

def chunk? : ReadResult → Option Bytes
  | data chunk => some chunk
  | _ => none

/-- What is written of the way in which the stream ended: an error that is neither an interruption
nor a hang-up. -/
def complaints : ReadResult → List Copied
  | failed errno =>
    if errno = .interrupted ∨ errno = .inputOutput then [] else [.error errno.report]
  | _ => []

theorem line_not_mem_complaints (result : ReadResult) (line : Bytes) :
    .line line ∉ result.complaints := by
  cases result with
  | failed errno =>
    by_cases h : errno = .interrupted ∨ errno = .inputOutput <;> simp [complaints, h]
  | _ => exact List.not_mem_nil

end ReadResult

def chunksOf (results : List ReadResult) : List Bytes := results.filterMap ReadResult.chunk?

@[simp]
theorem chunksOf_nil : chunksOf [] = [] := rfl

namespace LineBuffer

/-- What a buffer keeps and gives out for chunks of a limited size. -/
theorem length_le_of_mem_run_push {buffer : LineBuffer} (settled : buffer.Settled) {size : Nat}
    {chunks : List Bytes} (sized : ∀ chunk ∈ chunks, chunk.length ≤ size) :
    (∀ line ∈ (buffer.run (chunks.map .push)).1.flatten, line.length ≤ buffer.maxLine + size) ∧
      (buffer.run (chunks.map .push)).2.held.length ≤ buffer.maxLine := by
  induction chunks generalizing buffer with
  | nil => exact ⟨nofun, settled.within⟩
  | cons chunk chunks ih =>
    obtain ⟨hchunk, hchunks⟩ := List.forall_mem_cons.mp sized
    have hmax : (buffer.push chunk).2.maxLine = buffer.maxLine := buffer.maxLine_apply (.push chunk)
    have hnext : (buffer.push chunk).2.Settled := settled.apply (.push chunk)
    obtain ⟨hlines, hheld⟩ := ih hnext hchunks
    rw [hmax] at hlines hheld
    refine ⟨fun line hline ↦ ?_, hheld⟩
    rcases List.mem_append.mp (hline : line ∈ (buffer.push chunk).1 ++ _) with hfirst | hrest
    · exact Nat.le_trans (length_le_of_mem_push settled hfirst) (Nat.add_le_add_left hchunk _)
    · exact hlines line hrest

end LineBuffer

namespace Reader

theorem copy_cons (reader : Reader) (result : ReadResult) (results : List ReadResult) :
    reader.copy (result :: results) =
      (reader.step result).1 ++ (reader.step result).2.copy results := rfl

theorem step_of_finished {reader : Reader} (finished : reader.finished = true)
    (result : ReadResult) : reader.step result = ([], reader) := if_pos finished

/-- A reader that is done writes nothing more. -/
theorem copy_of_finished {reader : Reader} (finished : reader.finished = true)
    (results : List ReadResult) : reader.copy results = [] := by
  induction results with
  | nil => rfl
  | cons result results ih => simp [copy, step_of_finished finished, ih]

def after (reader : Reader) (results : List ReadResult) : Reader :=
  results.foldl (fun reader result ↦ (reader.step result).2) reader

theorem after_cons (reader : Reader) (result : ReadResult) (results : List ReadResult) :
    reader.after (result :: results) = (reader.step result).2.after results := rfl

theorem finished_after_of_finished {reader : Reader} (finished : reader.finished = true)
    (results : List ReadResult) : (reader.after results).finished = true := by
  induction results generalizing reader with
  | nil => exact finished
  | cons result results ih =>
    rw [after_cons, step_of_finished finished]
    exact ih finished

theorem after_concat (reader : Reader) (results : List ReadResult) (result : ReadResult) :
    reader.after (results ++ [result]) = ((reader.after results).step result).2 :=
  List.foldl_concat ..

theorem copy_concat (reader : Reader) (results : List ReadResult) (result : ReadResult) :
    reader.copy (results ++ [result]) =
      reader.copy results ++ ((reader.after results).step result).1 := by
  induction results generalizing reader with
  | nil => exact List.append_nil _
  | cons first results ih =>
    rw [List.cons_append, copy_cons, copy_cons, ih, List.append_assoc]
    rfl

/-- A read that goes on gives the buffer its chunk. -/
theorem step_of_goesOn {buffer : LineBuffer} {result : ReadResult} (h : result.goesOn = true) :
    step ⟨buffer, false⟩ result =
      ((buffer.run ((chunksOf [result]).map .push)).1.flatten.map .line,
        ⟨(buffer.run ((chunksOf [result]).map .push)).2, false⟩) := by
  cases result with
  | data chunk =>
    cases chunk with
    | nil => cases h
    | cons byte chunk => simp [step, chunksOf, ReadResult.chunk?, LineBuffer.run, LineBuffer.apply]
  | ended => cases h
  | failed errno =>
    obtain rfl : errno = .interrupted := of_decide_eq_true h
    rfl

/-- A read that ends the stream closes the reader. -/
theorem step_of_not_goesOn {buffer : LineBuffer} {result : ReadResult}
    (h : result.goesOn = false) :
    step ⟨buffer, false⟩ result =
      (result.complaints ++ buffer.finish.1.toList.map .line, ⟨buffer.finish.2, true⟩) := by
  cases result with
  | data chunk =>
    cases chunk with
    | nil => rfl
    | cons byte chunk => cases h
  | ended => rfl
  | failed errno =>
    have hother : errno ≠ .interrupted := of_decide_eq_false h
    rcases eq_or_ne errno .inputOutput with rfl | herrno
    · simp [step, close, ReadResult.complaints, hother]
    · simp [step, close, ReadResult.complaints, hother, herrno]

/-- A reader is done after the first read that does not go on. -/
theorem finished_after (buffer : LineBuffer) (results : List ReadResult) :
    (after ⟨buffer, false⟩ results).finished = results.any fun result ↦ !result.goesOn := by
  induction results generalizing buffer with
  | nil => rfl
  | cons result results ih =>
    cases hresult : result.goesOn with
    | true =>
      rw [after_cons, step_of_goesOn hresult]
      simpa [hresult] using ih _
    | false =>
      rw [after_cons, step_of_not_goesOn hresult]
      simpa [hresult] using finished_after_of_finished rfl results

/-- Without data there are no lines. -/
theorem step_of_no_data {reader : Reader} {result : ReadResult} (empty : reader.buffer.held = [])
    (noData : ∀ chunk, result = .data chunk → chunk = []) :
    (∀ line, .line line ∉ (reader.step result).1) ∧ (reader.step result).2.buffer.held = [] := by
  have hclose : reader.close = ([], ⟨reader.buffer.finish.2, true⟩) ∧
      reader.buffer.finish.2.held = [] := by
    simp [close, LineBuffer.finish, empty]
  unfold step
  cases hfinished : reader.finished with
  | true => exact ⟨by simp, empty⟩
  | false =>
    cases result with
    | data chunk =>
      obtain rfl := noData chunk rfl
      simp [hclose]
    | ended => simp [hclose]
    | failed errno =>
      rcases eq_or_ne errno .interrupted with rfl | hother
      · simp [empty]
      · rcases eq_or_ne errno .inputOutput with rfl | herrno
        · simp [hother, hclose]
        · simp [hother, herrno, hclose]

theorem exists_data_of_line_mem_copy {reader : Reader} {results : List ReadResult} {line : Bytes}
    (empty : reader.buffer.held = []) (h : .line line ∈ reader.copy results) :
    ∃ chunk, .data chunk ∈ results ∧ chunk ≠ [] := by
  induction results generalizing reader with
  | nil => cases h
  | cons result results ih =>
    by_cases hdata : ∀ chunk, result = .data chunk → chunk = []
    · obtain ⟨hnone, hheld⟩ := step_of_no_data empty hdata
      rw [copy_cons] at h
      obtain ⟨chunk, hchunk, hne⟩ := ih hheld ((List.mem_append.mp h).resolve_left (hnone line))
      exact ⟨chunk, List.mem_cons_of_mem _ hchunk, hne⟩
    · simp only [not_forall] at hdata
      obtain ⟨chunk, rfl, hne⟩ := hdata
      exact ⟨chunk, List.mem_cons_self, hne⟩

/-- The lines that a default line buffer gives out for the chunks among some results of reads. -/
def completeLines (results : List ReadResult) : List Copied :=
  ((LineBuffer.empty LineBuffer.defaultMaxLine).run
    ((chunksOf results).map .push)).1.flatten.map .line

/-- The partial line that is left in the buffer after them, if there is one. -/
def partialLine (results : List ReadResult) : List Copied :=
  ((LineBuffer.empty LineBuffer.defaultMaxLine).run
    ((chunksOf results).map .push)).2.finish.1.toList.map .line

/-- What a reader writes from a buffer on: the lines of the chunks up to the end of the stream, how
it ended, and what was left. -/
theorem copy_eq (buffer : LineBuffer) {results : List ReadResult} {last : ReadResult}
    (goesOn : ∀ result ∈ results, result.goesOn = true) (ends : last.goesOn = false)
    (more : List ReadResult) :
    copy ⟨buffer, false⟩ (results ++ last :: more) =
      (buffer.run ((chunksOf results).map .push)).1.flatten.map .line ++ last.complaints ++
        (buffer.run ((chunksOf results).map .push)).2.finish.1.toList.map .line := by
  induction results generalizing buffer with
  | nil =>
    rw [List.nil_append, copy_cons, step_of_not_goesOn ends]
    simp [copy_of_finished, LineBuffer.run]
  | cons result results ih =>
    obtain ⟨hresult, hresults⟩ := List.forall_mem_cons.mp goesOn
    have hchunks : chunksOf (result :: results) = chunksOf [result] ++ chunksOf results :=
      List.filterMap_append (l := [result])
    rw [List.cons_append, copy_cons, step_of_goesOn hresult]
    simp only [ih _ hresults]
    rw [hchunks, List.map_append, LineBuffer.run_append]
    simp

/-- A reader writes the complete lines, then why it stopped, and the partial line at last. -/
theorem copy_start {results : List ReadResult} {last : ReadResult}
    (goesOn : ∀ result ∈ results, result.goesOn = true) (ends : last.goesOn = false)
    (more : List ReadResult) :
    start.copy (results ++ last :: more) =
      completeLines results ++ last.complaints ++ partialLine results :=
  copy_eq (.empty LineBuffer.defaultMaxLine) goesOn ends more

theorem line_mem_map {line : Bytes} {lines : List Bytes} :
    Copied.line line ∈ lines.map .line ↔ line ∈ lines :=
  List.mem_map_of_injective fun _ _ h ↦ Copied.line.inj h

/-- Without a run that is too long, the lines and the rest are those of the whole stream. -/
theorem completeLines_eq_of_within {results : List ReadResult}
    (within : ∀ run, run <:+: (chunksOf results).flatten → lineFeed ∉ run →
      run.length ≤ LineBuffer.defaultMaxLine) :
    completeLines results = (cutLines (chunksOf results).flatten).1.map .line ∧
      partialLine results =
        if (cutLines (chunksOf results).flatten).2 = [] then []
        else [.line (trimReturn (cutLines (chunksOf results).flatten).2)] := by
  obtain ⟨hlines, hheld⟩ :=
    LineBuffer.run_push (LineBuffer.settled_empty LineBuffer.defaultMaxLine)
      (chunksOf results) within
  have hempty : (LineBuffer.empty LineBuffer.defaultMaxLine).held ++ (chunksOf results).flatten =
    (chunksOf results).flatten := rfl
  rw [hempty] at hlines hheld
  refine ⟨congrArg _ hlines, ?_⟩
  rw [partialLine, ← hheld]
  generalize ((LineBuffer.empty LineBuffer.defaultMaxLine).run _).2 = after
  cases hafter : after.held <;> simp [LineBuffer.finish, hafter]

/-- What a fresh reader writes for reads that give a stream and do not end it. -/
structure CopiesStream (results : List ReadResult) : Prop where
  /-- At its end, all lines of a line buffer are written and the partial line that is left. -/
  ended : start.copy (results ++ [.ended]) = completeLines results ++ partialLine results
  /-- The hang-up of a terminal is the end of a pipe. -/
  hangUp : start.copy (results ++ [.failed .inputOutput]) = start.copy (results ++ [.ended])
  /-- Any other error but an interruption adds one line, between the complete lines and the partial
  one. -/
  failed : ∀ errno, errno ≠ .interrupted → errno ≠ .inputOutput →
    start.copy (results ++ [.failed errno]) =
      completeLines results ++ [.error errno.report] ++ partialLine results
  /-- Nothing is read or written after the end. -/
  closed : ∀ last, last.goesOn = false → ∀ more,
    start.copy (results ++ last :: more) = start.copy (results ++ [last])
  /-- Reads of the same chunks are copied alike, so interruptions make no difference. -/
  uninterrupted : ∀ other, (∀ result ∈ other, result.goesOn = true) →
    chunksOf other = chunksOf results → ∀ last, last.goesOn = false →
      start.copy (other ++ [last]) = start.copy (results ++ [last])
  /-- No line is longer than the limit of the buffer and one read together. -/
  bounded : ∀ last, last.goesOn = false → ∀ line,
    .line line ∈ start.copy (results ++ [last]) → line.length ≤ 65536 + 8192
  /-- If no unbroken run of the stream is longer than the limit, only the stream matters. -/
  whateverTheReads : (∀ run, run <:+: (chunksOf results).flatten → lineFeed ∉ run →
    run.length ≤ 65536) → ∀ other, (∀ result ∈ other, result.goesOn = true) →
      (chunksOf other).flatten = (chunksOf results).flatten → ∀ last, last.goesOn = false →
        start.copy (other ++ [last]) = start.copy (results ++ [last])

/-- A reader copies the whole of every stream. -/
theorem copies_the_stream {results : List ReadResult}
    (goesOn : ∀ result ∈ results, result.goesOn = true)
    (sized : ∀ chunk ∈ chunksOf results, chunk.length ≤ readSize) : CopiesStream results := by
  have hended : start.copy (results ++ [.ended]) =
      completeLines results ++ ReadResult.ended.complaints ++ partialLine results :=
    copy_start goesOn rfl []
  constructor
  case ended => simpa [ReadResult.complaints] using hended
  case hangUp => exact (copy_start goesOn rfl []).trans hended.symm
  case failed =>
    intro errno hother herrno
    have ends : (ReadResult.failed errno).goesOn = false := decide_eq_false hother
    rw [copy_start goesOn ends [], ReadResult.complaints, if_neg (not_or.mpr ⟨hother, herrno⟩)]
  case closed =>
    exact fun last ends more ↦ (copy_start goesOn ends more).trans (copy_start goesOn ends []).symm
  case uninterrupted =>
    intro other hother hchunks last ends
    rw [copy_start hother ends, copy_start goesOn ends, completeLines, completeLines, partialLine,
      partialLine, hchunks]
  case bounded =>
    intro last ends line hline
    rw [copy_start goesOn ends] at hline
    obtain ⟨hlines, hheld⟩ :=
      LineBuffer.length_le_of_mem_run_push
        (LineBuffer.settled_empty LineBuffer.defaultMaxLine) sized
    rcases List.mem_append.mp hline with hbefore | hrest
    · rcases List.mem_append.mp hbefore with hcut | hcomplaint
      · exact hlines line (line_mem_map.mp hcut)
      · exact absurd hcomplaint (last.line_not_mem_complaints line)
    · have hfinish := LineBuffer.length_le_of_mem_finish (line_mem_map.mp hrest)
      exact hfinish.trans (hheld.trans (Nat.le_add_right _ _))
  case whateverTheReads =>
    intro within other hother hstream last ends
    obtain ⟨hlines, hrest⟩ := completeLines_eq_of_within within
    obtain ⟨hlines', hrest'⟩ := completeLines_eq_of_within (hstream ▸ within)
    rw [copy_start hother ends, copy_start goesOn ends, hlines, hrest, hlines', hrest', hstream]

/-- A line cut by the reads, an interruption, and a tail without a newline. -/
theorem copies_the_stream_cut_and_interrupted :
    CopiesStream [.data [97], .failed .interrupted, .data [98, 13, 10, 99]] ∧
      start.copy [.data [97], .failed .interrupted, .data [98, 13, 10, 99], .failed ⟨9⟩] =
        [.line [97, 98], .error "Bad file descriptor (os error 9)", .line [99]] :=
  ⟨copies_the_stream (by decide) (by decide), by decide⟩

end Reader

end Supervision.Output
