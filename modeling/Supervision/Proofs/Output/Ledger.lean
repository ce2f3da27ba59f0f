import Supervision.Proofs.Output.Lines

/-!
# What becomes of every byte

Each line that a buffer gives out is set down together with the bytes that were taken off its end.
Read in order, and with what is still held behind them, they are all the bytes that were pushed.  A
partial line is given out by a push only if it has grown beyond the limit since the last break.
-/

namespace Supervision.Output

/-- A line that was given out, and what was taken off its end. -/
structure Given where
  line : Bytes
  removed : Bytes
  deriving DecidableEq, Repr

namespace Given

def bytes (given : Given) : Bytes := given.line ++ given.removed

/-- The line was ended by a line feed, which is gone together with one carriage return before it. -/
structure IsTerminated (given : Given) : Prop where
  unbroken : lineFeed ∉ given.line
  removed : given.removed = [carriageReturn, lineFeed] ∨
    given.removed = [lineFeed] ∧ given.line.getLast? ≠ some carriageReturn

/-- The line was all that was left, and at most a carriage return of it is gone. -/
def IsRemainder (given : Given) : Prop := given.removed = [] ∨ given.removed = [carriageReturn]

end Given

/-- What an operation gave out.  A push gives out the lines it completed and then, perhaps, a partial
line; a call of finish gives out at most one line. -/
inductive Entry
  | push (chunk : Bytes) (complete : List Given) (forced : Option Bytes)
  | finish (last : Option Given)
  deriving DecidableEq, Repr

namespace Entry

def operation : Entry → Operation
  | push chunk _ _ => .push chunk
  | finish _ => .finish

def lines : Entry → List Bytes
  | push _ complete forced => complete.map Given.line ++ forced.toList
  | finish last => last.toList.map Given.line

/-- The bytes that the lines were made of.  Nothing is taken off a partial line. -/
def bytes : Entry → Bytes
  | push _ complete forced => complete.flatMap Given.bytes ++ forced.getD []
  | finish last => last.toList.flatMap Given.bytes

/-- Every line is of the kind that its operation gives out. -/
def Sound (maxLine : Nat) : Entry → Prop
  | push _ complete forced =>
    (∀ given ∈ complete, given.IsTerminated) ∧ ∀ line ∈ forced, maxLine < line.length
  | finish last => ∀ given ∈ last, given.IsRemainder

/-- The bytes since the last line feed. -/
def sinceFeed (bytes : Bytes) : Bytes := bytes.rtakeWhile (· ≠ lineFeed)

/-- The bytes since the last line feed, forced line or call of finish, from those before it. -/
def pending (before : Bytes) : Entry → Bytes
  | push chunk _ none => sinceFeed (before ++ chunk)
  | push _ _ (some _) => []
  | finish _ => []

/-- A partial line is forced out exactly if it is too long, and then as it is. -/
def ForcedIfLong (maxLine : Nat) (before : Bytes) : Entry → Prop
  | push chunk _ forced => ∀ line, forced = some line ↔
    maxLine < (sinceFeed (before ++ chunk)).length ∧ line = sinceFeed (before ++ chunk)
  | finish _ => True

end Entry

/-- What is taken off a line that ends with a carriage return. -/
def removedReturn (segment : Bytes) : Bytes :=
  if segment.getLast? = some carriageReturn then [carriageReturn] else []

/-- What is taken off the end of a segment is all that a line lacks of it. -/
theorem trimReturn_append_removedReturn (segment : Bytes) :
    trimReturn segment ++ removedReturn segment = segment := by
  unfold trimReturn removedReturn
  split
  · next h => exact List.dropLast_append_getLast? _ h
  · exact List.append_nil _

namespace Given

/-- A segment with the line feed behind it. -/
def ofSegment (segment : Bytes) : Given :=
  ⟨trimReturn segment, removedReturn segment ++ [lineFeed]⟩

theorem bytes_ofSegment (segment : Bytes) : (ofSegment segment).bytes = segment ++ [lineFeed] := by
  rw [bytes, ofSegment, ← List.append_assoc, trimReturn_append_removedReturn]

theorem isTerminated_ofSegment {segment : Bytes} (unbroken : lineFeed ∉ segment) :
    (ofSegment segment).IsTerminated := by
  constructor
  · intro hmem
    have hsegment := trimReturn_append_removedReturn segment
    exact unbroken (hsegment ▸ List.mem_append_left _ hmem)
  · unfold ofSegment trimReturn removedReturn
    by_cases h : segment.getLast? = some carriageReturn
    · simp [h]
    · simp [h]

/-- What is left when the stream ends. -/
def ofRest (rest : Bytes) : Given := ⟨trimReturn rest, removedReturn rest⟩

theorem isRemainder_ofRest (rest : Bytes) : (ofRest rest).IsRemainder := by
  unfold IsRemainder ofRest removedReturn
  split <;> simp

end Given

namespace LineBuffer

/-- An entry tells what an operation made of a buffer. -/
structure Records (buffer : LineBuffer) (operation : Operation) (entry : Entry) : Prop where
  operation_eq : entry.operation = operation
  lines_eq : entry.lines = (buffer.apply operation).1
  sound : entry.Sound buffer.maxLine
  balance : entry.bytes ++ (buffer.apply operation).2.held = buffer.held ++ operation.bytes
  held_eq : (buffer.apply operation).2.held = entry.pending buffer.held
  forced : entry.ForcedIfLong buffer.maxLine buffer.held

/-- A push gives out lines that were ended and, if the rest is too long, that rest as it is. -/
theorem exists_records_push {buffer : LineBuffer} (settled : buffer.Settled) (chunk : Bytes) :
    ∃ entry, buffer.Records (.push chunk) entry := by
  obtain ⟨segments, segmented, hlines⟩ := exists_segments (buffer.held ++ chunk)
  have hrest := rest_eq_rtakeWhile (buffer.held ++ chunk)
  have hcomplete : (segments.map Given.ofSegment).flatMap Given.bytes =
      segments.flatMap (· ++ [lineFeed]) := by
    rw [List.flatMap_map]
    simp only [Given.bytes_ofSegment]
  have hgiven : (segments.map Given.ofSegment).map Given.line = segments.map trimReturn := by
    rw [List.map_map]
    rfl
  have hterminated : ∀ given ∈ segments.map Given.ofSegment, given.IsTerminated := by
    intro given hmem
    obtain ⟨segment, hsegment, rfl⟩ := List.mem_map.mp hmem
    exact Given.isTerminated_ofSegment (segmented.unbroken segment hsegment)
  have hpush := push_eq settled chunk
  by_cases hlong : buffer.maxLine < (cutLines (buffer.held ++ chunk)).2.length
  · refine ⟨.push chunk (segments.map Given.ofSegment)
      (some (cutLines (buffer.held ++ chunk)).2), rfl, ?_, ⟨hterminated, ?_⟩, ?_, ?_, ?_⟩
    · simp [Entry.lines, apply, hpush, hlong, hlines, hgiven]
    · rintro line ⟨⟩
      exact hlong
    · simp [Entry.bytes, apply, hpush, hlong, hcomplete, segmented.eq, Operation.bytes]
    · simp [Entry.pending, apply, hpush, hlong]
    · intro line
      rw [Entry.sinceFeed, ← hrest]
      simp [hlong, eq_comm]
  · refine ⟨.push chunk (segments.map Given.ofSegment) none, rfl, ?_, ⟨hterminated, ?_⟩, ?_, ?_, ?_⟩
    · simp [Entry.lines, apply, hpush, hlong, hlines, hgiven]
    · intro line hmem
      exact absurd hmem (Option.not_mem_none line)
    · simp [Entry.bytes, apply, hpush, hlong, hcomplete, segmented.eq, Operation.bytes]
    · rw [Entry.pending, Entry.sinceFeed, ← hrest]
      simp [apply, hpush, hlong]
    · intro line
      rw [Entry.sinceFeed, ← hrest]
      simp [hlong]

/-- A call of finish gives out all that was held, if anything was. -/
theorem exists_records_finish (buffer : LineBuffer) : ∃ entry, buffer.Records .finish entry := by
  cases hheld : buffer.held with
  | nil =>
    refine ⟨.finish none, rfl, ?_, nofun, ?_, ?_, trivial⟩
    · simp [Entry.lines, apply, finish, hheld]
    · simp [Entry.bytes, apply, finish, hheld, Operation.bytes]
    · simp [Entry.pending, apply, finish, hheld]
  | cons byte held =>
    refine ⟨.finish (some (.ofRest buffer.held)), rfl, ?_, ?_, ?_, ?_, trivial⟩
    · simp [Entry.lines, apply, finish, hheld, Given.ofRest]
    · rintro given ⟨⟩
      exact Given.isRemainder_ofRest _
    · simp [Entry.bytes, apply, finish, hheld, Operation.bytes, Given.bytes, Given.ofRest,
        trimReturn_append_removedReturn]
    · simp [Entry.pending, apply, finish, hheld]

theorem exists_records {buffer : LineBuffer} (settled : buffer.Settled) (operation : Operation) :
    ∃ entry, buffer.Records operation entry := by
  cases operation with
  | push chunk => exact exists_records_push settled chunk
  | finish => exact exists_records_finish buffer

/-- An operation adds the bytes it brings and the lines it gives out to the counts. -/
theorem counts_apply (buffer : LineBuffer) (operation : Operation) :
    (buffer.apply operation).2.totalBytes = buffer.totalBytes + operation.bytes.length ∧
      (buffer.apply operation).2.totalLines =
        buffer.totalLines + (buffer.apply operation).1.length := by
  cases operation with
  | push chunk =>
    rw [apply, push]
    split
    · next h => simp [List.isEmpty_iff.mp h, Operation.bytes]
    · exact ⟨rfl, rfl⟩
  | finish =>
    rw [apply, finish]
    split <;> exact ⟨rfl, rfl⟩

/-- The entries of several operations, one for each, account for every byte. -/
structure Ledger (buffer : LineBuffer) (operations : List Operation) (entries : List Entry) :
    Prop where
  operations_eq : entries.map Entry.operation = operations
  lines_eq : entries.map Entry.lines = (buffer.run operations).1
  sound : ∀ entry ∈ entries, entry.Sound buffer.maxLine
  balance : entries.flatMap Entry.bytes ++ (buffer.run operations).2.held =
    buffer.held ++ operations.flatMap Operation.bytes
  held_eq : (buffer.run operations).2.held = entries.foldl Entry.pending buffer.held
  forced : ∀ earlier entry later, entries = earlier ++ entry :: later →
    entry.ForcedIfLong buffer.maxLine (earlier.foldl Entry.pending buffer.held)
  stats_eq : (buffer.run operations).2.stats =
    { heldBytes := (buffer.run operations).2.held.length
      totalBytes := buffer.totalBytes + (operations.flatMap Operation.bytes).length
      totalLines := buffer.totalLines + (buffer.run operations).1.flatten.length }

/-- What an operation leaves in the buffer is pending for the operations after it. -/
theorem Ledger.cons {buffer : LineBuffer} {operation : Operation} {operations : List Operation}
    {entry : Entry} {entries : List Entry}
    (ledger : (buffer.apply operation).2.Ledger operations entries)
    (records : buffer.Records operation entry) :
    buffer.Ledger (operation :: operations) (entry :: entries) := by
  have hmax := maxLine_apply buffer operation
  obtain ⟨hbytes, hlines⟩ := counts_apply buffer operation
  constructor
  case operations_eq => simp [records.operation_eq, ledger.operations_eq]
  case lines_eq => simp [run, records.lines_eq, ledger.lines_eq]
  case sound =>
    intro other hmem
    rcases List.mem_cons.mp hmem with rfl | h
    · exact records.sound
    · exact hmax ▸ ledger.sound other h
  case balance =>
    calc
      _ = entry.bytes ++ (entries.flatMap Entry.bytes ++
          ((buffer.apply operation).2.run operations).2.held) := by simp [run]
      _ = entry.bytes ++ (buffer.apply operation).2.held ++ operations.flatMap Operation.bytes := by
        rw [ledger.balance, List.append_assoc]
      _ = buffer.held ++ (operation :: operations).flatMap Operation.bytes := by
        rw [records.balance, List.append_assoc, List.flatMap_cons]
  case held_eq =>
    calc
      _ = ((buffer.apply operation).2.run operations).2.held := rfl
      _ = entries.foldl Entry.pending (entry.pending buffer.held) := by
        rw [ledger.held_eq, records.held_eq]
  case forced =>
    intro earlier other later hsplit
    cases earlier with
    | nil =>
      cases hsplit
      exact records.forced
    | cons first earlier =>
      cases hsplit
      have hforced := ledger.forced earlier other later rfl
      rwa [hmax, records.held_eq] at hforced
  case stats_eq =>
    have hstats := ledger.stats_eq
    simp only [stats, BufferStats.mk.injEq] at hstats ⊢
    obtain ⟨-, htotalBytes, htotalLines⟩ := hstats
    refine ⟨trivial, ?_, ?_⟩
    · calc
        _ = ((buffer.apply operation).2.run operations).2.totalBytes := rfl
        _ = _ := by
          rw [htotalBytes, hbytes, List.flatMap_cons, List.length_append, Nat.add_assoc]
    · calc
        _ = ((buffer.apply operation).2.run operations).2.totalLines := rfl
        _ = _ := by
          rw [htotalLines, hlines, run, List.flatten_cons, List.length_append, Nat.add_assoc]

/-- After any operations every byte is accounted for. -/
theorem exists_ledger {buffer : LineBuffer} (settled : buffer.Settled)
    (operations : List Operation) : ∃ entries, buffer.Ledger operations entries := by
  induction operations generalizing buffer with
  | nil => exact ⟨[], rfl, rfl, nofun, by simp [run], rfl, by simp, rfl⟩
  | cons operation operations ih =>
    obtain ⟨entry, records⟩ := exists_records settled operation
    obtain ⟨entries, ledger⟩ := ih (settled.apply operation)
    exact ⟨entry :: entries, ledger.cons records⟩

/-- Whatever is done with a fresh buffer, the lines it gives out and the bytes it holds are the bytes
it was given, and its counts are right. -/
theorem every_byte_accounted_for (maxLine : Nat) (operations : List Operation) :
    ∃ entries, (empty maxLine).Ledger operations entries :=
  exists_ledger (settled_empty maxLine) operations

end LineBuffer

end Supervision.Output
