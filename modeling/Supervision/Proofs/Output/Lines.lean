import Supervision.Output.LineBuffer
import Mathlib.Data.List.DropRight
import Mathlib.Data.List.Infix

/-!
# Lines and chunks

A stream falls into segments, each ended by a line feed, and a rest without one.  A buffer that is
given the stream in chunks finds the same segments wherever the cuts are, since what it holds between
two chunks is the rest of what came before.
-/

namespace Supervision.Output

/-- A byte sequence is made of segments, each with a line feed behind it, and a rest. -/
structure Segmented (bytes : Bytes) (segments : List Bytes) (rest : Bytes) : Prop where
  eq : segments.flatMap (· ++ [lineFeed]) ++ rest = bytes
  unbroken : ∀ segment ∈ segments, lineFeed ∉ segment
  rest_unbroken : lineFeed ∉ rest

@[simp]
theorem cutLines_nil : cutLines [] = ([], []) := rfl

theorem cutLines_append_singleton (bytes : Bytes) (byte : UInt8) :
    cutLines (bytes ++ [byte]) =
      if byte = lineFeed then ((cutLines bytes).1 ++ [trimReturn (cutLines bytes).2], [])
      else ((cutLines bytes).1, (cutLines bytes).2 ++ [byte]) := by
  unfold cutLines
  rw [List.foldl_append, List.foldl_cons, List.foldl_nil, Cut.step]
  split <;> simp

/-- Lines are cut off as the segments between line feeds, each trimmed. -/
theorem exists_segments (bytes : Bytes) :
    ∃ segments, Segmented bytes segments (cutLines bytes).2 ∧
      (cutLines bytes).1 = segments.map trimReturn := by
  induction bytes using List.reverseRecOn with
  | nil => exact ⟨[], ⟨rfl, nofun, nofun⟩, rfl⟩
  | append_singleton bytes byte ih =>
    obtain ⟨segments, ⟨heq, hunbroken, hrest⟩, hlines⟩ := ih
    rw [cutLines_append_singleton]
    by_cases hbyte : byte = lineFeed
    · rw [if_pos hbyte]
      refine ⟨segments ++ [(cutLines bytes).2], ⟨?_, ?_, nofun⟩, ?_⟩
      · rw [List.flatMap_append, List.flatMap_singleton, List.append_nil, ← List.append_assoc, heq,
          hbyte]
      · intro segment hmem
        rcases List.mem_append.mp hmem with h | h
        · exact hunbroken segment h
        · rwa [List.mem_singleton.mp h]
      · simp [hlines]
    · rw [if_neg hbyte]
      refine ⟨segments, ⟨?_, hunbroken, ?_⟩, hlines⟩
      · rw [← List.append_assoc, heq]
      · simp [hrest, Ne.symm hbyte]

theorem length_trimReturn_le (line : Bytes) : (trimReturn line).length ≤ line.length := by
  unfold trimReturn
  split
  · exact (List.dropLast_prefix line).length_le
  · exact Nat.le_refl _

theorem lineFeed_not_mem_trimReturn {line : Bytes} (h : lineFeed ∉ line) :
    lineFeed ∉ trimReturn line := by
  unfold trimReturn
  split
  · exact fun hmem ↦ h (List.mem_of_mem_dropLast hmem)
  · exact h

theorem length_le_of_mem_cutLines {bytes line : Bytes} (h : line ∈ (cutLines bytes).1) :
    line.length ≤ bytes.length := by
  obtain ⟨segments, segmented, hlines⟩ := exists_segments bytes
  rw [hlines] at h
  obtain ⟨segment, hsegment, rfl⟩ := List.mem_map.mp h
  have hinfix : segment <:+: bytes := by
    obtain ⟨front, back, rfl⟩ := List.append_of_mem hsegment
    rw [← segmented.eq]
    refine ⟨front.flatMap (· ++ [lineFeed]),
      lineFeed :: back.flatMap (· ++ [lineFeed]) ++ (cutLines bytes).2, ?_⟩
    simp
  exact Nat.le_trans (length_trimReturn_le segment) hinfix.length_le

theorem lineFeed_not_mem_rest (bytes : Bytes) : lineFeed ∉ (cutLines bytes).2 := by
  obtain ⟨_, segmented, _⟩ := exists_segments bytes
  exact segmented.rest_unbroken

theorem rest_suffix (bytes : Bytes) : (cutLines bytes).2 <:+ bytes := by
  obtain ⟨segments, segmented, _⟩ := exists_segments bytes
  exact ⟨_, segmented.eq⟩

/-- What follows the last line feed is all that was taken since. -/
theorem rest_eq_rtakeWhile (bytes : Bytes) :
    (cutLines bytes).2 = bytes.rtakeWhile (· ≠ lineFeed) := by
  induction bytes using List.reverseRecOn with
  | nil => rfl
  | append_singleton bytes byte ih =>
    rw [cutLines_append_singleton, List.rtakeWhile_concat]
    by_cases hbyte : byte = lineFeed <;> simp [hbyte, ih]

theorem cutLines_of_not_mem {bytes : Bytes} (h : lineFeed ∉ bytes) : cutLines bytes = ([], bytes) := by
  induction bytes using List.reverseRecOn with
  | nil => rfl
  | append_singleton bytes byte ih =>
    rw [List.mem_append, not_or, List.mem_singleton] at h
    rw [cutLines_append_singleton, if_neg (Ne.symm h.2), ih h.1]

/-- Cutting may stop anywhere and go on with the rest. -/
theorem cutLines_append (first second : Bytes) :
    cutLines (first ++ second) =
      ((cutLines first).1 ++ (cutLines ((cutLines first).2 ++ second)).1,
        (cutLines ((cutLines first).2 ++ second)).2) := by
  induction second using List.reverseRecOn with
  | nil =>
    have hrest := cutLines_of_not_mem (lineFeed_not_mem_rest first)
    simp [hrest]
  | append_singleton second byte ih =>
    rw [← List.append_assoc, ← List.append_assoc, cutLines_append_singleton,
      cutLines_append_singleton, ih]
    split <;> simp

theorem Segmented.splitOn_eq {bytes rest : Bytes} {segments : List Bytes}
    (segmented : Segmented bytes segments rest) :
    bytes.splitOn lineFeed = segments ++ [rest] := by
  obtain ⟨rfl, hunbroken, hrest⟩ := segmented
  induction segments with
  | nil => exact List.splitOn_eq_singleton hrest
  | cons segment segments ih =>
    have hfirst := List.splitOn_append_cons_self_of_not_mem
      (hunbroken segment List.mem_cons_self) (segments.flatMap (· ++ [lineFeed]) ++ rest)
    have htail := ih fun other hother ↦ hunbroken other (List.mem_cons_of_mem _ hother)
    rw [htail] at hfirst
    simpa using hfirst

/-- The lines of a whole stream: the pieces between its line feeds, each without one carriage return
at its end.  An empty last piece is no line. -/
def linesOf (stream : Bytes) : List Bytes :=
  let pieces := stream.splitOn lineFeed
  (if pieces.getLast? = some [] then pieces.dropLast else pieces).map trimReturn

/-- The lines of a stream are those that are cut off, and the rest unless it is empty. -/
theorem linesOf_eq (stream : Bytes) :
    linesOf stream = (cutLines stream).1 ++
      if (cutLines stream).2 = [] then [] else [trimReturn (cutLines stream).2] := by
  obtain ⟨segments, segmented, hlines⟩ := exists_segments stream
  rw [linesOf, segmented.splitOn_eq, hlines]
  by_cases hrest : (cutLines stream).2 = [] <;> simp [hrest]

/-- What can be done with a buffer. -/
inductive Operation
  | push (chunk : Bytes)
  | finish
  deriving DecidableEq, Repr

def Operation.bytes : Operation → Bytes
  | push chunk => chunk
  | finish => []

namespace LineBuffer

/-- The lines that an operation gives out, and the buffer after it. -/
def apply (buffer : LineBuffer) : Operation → List Bytes × LineBuffer
  | .push chunk => buffer.push chunk
  | .finish => (buffer.finish.1.toList, buffer.finish.2)

/-- The lines that each of several operations gives out, and the buffer after them. -/
def run (buffer : LineBuffer) : List Operation → List (List Bytes) × LineBuffer
  | [] => ([], buffer)
  | operation :: operations =>
    let (lines, buffer) := buffer.apply operation
    let (more, buffer) := buffer.run operations
    (lines :: more, buffer)

theorem maxLine_apply (buffer : LineBuffer) (operation : Operation) :
    (buffer.apply operation).2.maxLine = buffer.maxLine := by
  cases operation with
  | push chunk =>
    rw [apply, push]
    split <;> rfl
  | finish =>
    rw [apply, finish]
    split <;> rfl

/-- What is held between operations is a partial line within the limit. -/
structure Settled (buffer : LineBuffer) : Prop where
  unbroken : lineFeed ∉ buffer.held
  within : buffer.held.length ≤ buffer.maxLine

theorem settled_empty (maxLine : Nat) : (empty maxLine).Settled := ⟨nofun, Nat.zero_le _⟩

/-- A chunk is cut together with what is held, and only the length of the rest decides whether it is
kept.  An empty chunk makes no difference. -/
theorem push_eq {buffer : LineBuffer} (settled : buffer.Settled) (chunk : Bytes) :
    buffer.push chunk =
      let (complete, rest) := cutLines (buffer.held ++ chunk)
      let lines := if buffer.maxLine < rest.length then complete ++ [rest] else complete
      (lines,
        { maxLine := buffer.maxLine
          held := if buffer.maxLine < rest.length then [] else rest
          totalBytes := buffer.totalBytes + chunk.length
          totalLines := buffer.totalLines + lines.length }) := by
  obtain ⟨hunbroken, hwithin⟩ := settled
  unfold push
  cases chunk with
  | nil =>
    rw [List.append_nil, cutLines_of_not_mem hunbroken]
    simp [Nat.not_lt.mpr hwithin]
  | cons byte chunk => rfl

/-- No line that a push gives out is longer than the limit and the chunk together. -/
theorem length_le_of_mem_push {buffer : LineBuffer} (settled : buffer.Settled) {chunk line : Bytes}
    (h : line ∈ (buffer.push chunk).1) : line.length ≤ buffer.maxLine + chunk.length := by
  have hall : (buffer.held ++ chunk).length ≤ buffer.maxLine + chunk.length := by
    rw [List.length_append]
    exact Nat.add_le_add_right settled.within _
  have hline : line ∈ (cutLines (buffer.held ++ chunk)).1 ∨
      line = (cutLines (buffer.held ++ chunk)).2 := by
    rw [push_eq settled] at h
    simp only at h
    split at h
    · simpa using h
    · exact .inl h
  refine Nat.le_trans ?_ hall
  rcases hline with hcomplete | rfl
  · exact length_le_of_mem_cutLines hcomplete
  · exact (rest_suffix _).length_le

theorem length_le_of_mem_finish {buffer : LineBuffer} {line : Bytes}
    (h : line ∈ buffer.finish.1.toList) : line.length ≤ buffer.held.length := by
  unfold finish at h
  split at h
  · cases h
  · obtain rfl := List.mem_singleton.mp h
    exact length_trimReturn_le _

theorem Settled.lineFeed_not_mem_push {buffer : LineBuffer} (settled : buffer.Settled)
    (chunk : Bytes) : ∀ line ∈ (buffer.push chunk).1, lineFeed ∉ line := by
  obtain ⟨segments, segmented, hlines⟩ := exists_segments (buffer.held ++ chunk)
  have hcomplete : ∀ line ∈ (cutLines (buffer.held ++ chunk)).1, lineFeed ∉ line := by
    rw [hlines, List.forall_mem_map]
    exact fun segment hmem ↦ lineFeed_not_mem_trimReturn (segmented.unbroken segment hmem)
  rw [push_eq settled]
  dsimp only
  split
  · rw [List.forall_mem_append, List.forall_mem_singleton]
    exact ⟨hcomplete, segmented.rest_unbroken⟩
  · exact hcomplete

theorem Settled.lineFeed_not_mem_finish {buffer : LineBuffer} (settled : buffer.Settled) :
    ∀ line ∈ buffer.finish.1.toList, lineFeed ∉ line := by
  unfold finish
  split
  · exact List.forall_mem_nil _
  · exact List.forall_mem_singleton.mpr (lineFeed_not_mem_trimReturn settled.unbroken)

/-- No operation leaves a line feed or more than the limit in the buffer. -/
theorem Settled.apply {buffer : LineBuffer} (settled : buffer.Settled) (operation : Operation) :
    (buffer.apply operation).2.Settled := by
  cases operation with
  | push chunk =>
    rw [LineBuffer.apply, push_eq settled]
    constructor
    · simp only
      split
      · nofun
      · exact lineFeed_not_mem_rest _
    · simp only
      split
      · exact Nat.zero_le _
      · omega
  | finish =>
    rw [LineBuffer.apply, finish]
    split
    · exact settled
    · exact ⟨nofun, Nat.zero_le _⟩

/-- In a stream whose unbroken runs are within the limit, a rest is never too long to be kept. -/
theorem push_of_within {buffer : LineBuffer} (settled : buffer.Settled) {chunk : Bytes}
    (within : (cutLines (buffer.held ++ chunk)).2.length ≤ buffer.maxLine) :
    (buffer.push chunk).1 = (cutLines (buffer.held ++ chunk)).1 ∧
      (buffer.push chunk).2.held = (cutLines (buffer.held ++ chunk)).2 ∧
        (buffer.push chunk).2.maxLine = buffer.maxLine := by
  rw [push_eq settled]
  simp [Nat.not_lt.mpr within]

theorem run_append (buffer : LineBuffer) (operations more : List Operation) :
    buffer.run (operations ++ more) =
      ((buffer.run operations).1 ++ ((buffer.run operations).2.run more).1,
        ((buffer.run operations).2.run more).2) := by
  induction operations generalizing buffer with
  | nil => rfl
  | cons operation operations ih => simp [run, ih]

/-- A buffer that holds the rest of what came before gives out the complete lines of that rest with
all that comes, and then holds what follows the last of them. -/
theorem run_push {buffer : LineBuffer} (settled : buffer.Settled) (chunks : List Bytes)
    (within : ∀ run, run <:+: buffer.held ++ chunks.flatten → lineFeed ∉ run →
      run.length ≤ buffer.maxLine) :
    (buffer.run (chunks.map .push)).1.flatten = (cutLines (buffer.held ++ chunks.flatten)).1 ∧
      (buffer.run (chunks.map .push)).2.held = (cutLines (buffer.held ++ chunks.flatten)).2 := by
  induction chunks generalizing buffer with
  | nil =>
    have hcut := cutLines_of_not_mem settled.unbroken
    simp [run, hcut]
  | cons chunk chunks ih =>
    have hrest : (cutLines (buffer.held ++ chunk)).2.length ≤ buffer.maxLine := by
      apply within
      · rw [List.flatten_cons, ← List.append_assoc]
        exact (rest_suffix _).isInfix.trans (List.prefix_append _ _).isInfix
      · exact lineFeed_not_mem_rest _
    obtain ⟨hlines, hheld, hmax⟩ := push_of_within settled hrest
    have hnext : (buffer.push chunk).2.Settled := settled.apply (.push chunk)
    have hwithin : ∀ run, run <:+: (buffer.push chunk).2.held ++ chunks.flatten → lineFeed ∉ run →
        run.length ≤ (buffer.push chunk).2.maxLine := by
      intro run hinfix hunbroken
      rw [hmax]
      apply within run _ hunbroken
      rw [hheld] at hinfix
      rw [List.flatten_cons, ← List.append_assoc]
      have hsuffix : (cutLines (buffer.held ++ chunk)).2 ++ chunks.flatten <:+
          buffer.held ++ chunk ++ chunks.flatten := by
        obtain ⟨front, hfront⟩ := rest_suffix (buffer.held ++ chunk)
        exact ⟨front, by rw [← List.append_assoc, hfront]⟩
      exact hinfix.trans hsuffix.isInfix
    obtain ⟨hmore, hlast⟩ := ih hnext hwithin
    have hcut := cutLines_append (buffer.held ++ chunk) chunks.flatten
    rw [List.flatten_cons, ← List.append_assoc, hcut, ← hheld, ← hlast, ← hmore, ← hlines]
    exact ⟨rfl, rfl⟩

/-- When the stream ends, the lines are those of the whole. -/
theorem run_push_finish {buffer : LineBuffer} (settled : buffer.Settled) (chunks : List Bytes)
    (within : ∀ run, run <:+: buffer.held ++ chunks.flatten → lineFeed ∉ run →
      run.length ≤ buffer.maxLine) :
    (buffer.run (chunks.map .push ++ [.finish])).1.flatten =
      linesOf (buffer.held ++ chunks.flatten) := by
  obtain ⟨hlines, hheld⟩ := run_push settled chunks within
  rw [run_append, linesOf_eq, ← hlines, ← hheld, List.flatten_append]
  generalize (buffer.run (chunks.map .push)).2 = after
  cases hafter : after.held <;> simp [run, apply, finish, hafter]

/-- Where no unbroken run of a stream is longer than the limit, the lines that come out are those of
the whole stream, however it is cut into chunks. -/
theorem lines_whatever_the_chunks (maxLine : Nat) (stream : Bytes)
    (within : ∀ run, run <:+: stream → lineFeed ∉ run → run.length ≤ maxLine)
    (chunks : List Bytes) (cut : chunks.flatten = stream) :
    ((empty maxLine).run (chunks.map .push ++ [.finish])).1.flatten = linesOf stream ∧
      ∀ other : List Bytes, other.flatten = stream →
        ((empty maxLine).run (other.map .push ++ [.finish])).1.flatten =
          ((empty maxLine).run (chunks.map .push ++ [.finish])).1.flatten := by
  have hlines (chunks : List Bytes) (cut : chunks.flatten = stream) :
      ((empty maxLine).run (chunks.map .push ++ [.finish])).1.flatten = linesOf stream := by
    subst cut
    exact run_push_finish (settled_empty maxLine) chunks within
  exact ⟨hlines chunks cut, fun other hother ↦ (hlines other hother).trans (hlines chunks cut).symm⟩

/-- The stream `ab CR LF LF cd CR` under a limit of three, cut inside a line, between its return and
its feed, and with an empty chunk. -/
theorem lines_whatever_the_chunks_returns :
    (∀ run, run <:+: [97, 98, 13, 10, 10, 99, 100, 13] → lineFeed ∉ run → run.length ≤ 3) ∧
      ((empty 3).run ([[97], [98, 13], [], [10, 10, 99], [100, 13]].map .push ++ [.finish])).1.flatten =
        [[97, 98], [], [99, 100]] := by
  have within : ∀ run, run <:+: [97, 98, 13, 10, 10, 99, 100, 13] → lineFeed ∉ run →
      run.length ≤ 3 := by
    intro run hinfix
    obtain ⟨tail, hprefix, hsuffix⟩ := List.infix_iff_prefix_suffix.mp hinfix
    have hall : ∀ tail ∈ List.tails [97, 98, 13, 10, 10, 99, 100, 13], ∀ run ∈ tail.inits,
        lineFeed ∉ run → run.length ≤ 3 := by decide
    exact hall tail ((List.mem_tails _ _).mpr hsuffix) run ((List.mem_inits _ _).mpr hprefix)
  exact ⟨within, (lines_whatever_the_chunks 3 _ within _ rfl).1.trans (by decide)⟩

end LineBuffer

end Supervision.Output
