import Mathlib.Data.Nat.PSub
import Supervision.Proofs.Output.Lines

/-!
# Lines are taken off one by one

A push takes the complete lines off what it has in rounds.  A round looks for the first line feed, takes
all up to it, and cuts the line by one byte more if a carriage return is at its end.  Each round takes
away the line feed that it has found, so there are as many rounds as line feeds, and a line that ends
with a carriage return is long enough to be cut.  What a buffer holds after an operation is therefore a
piece of one line, and within the limit.
-/

namespace Supervision.Output

/-- A segment of the given length without one carriage return at its end, unless the length is too
small for that. -/
def cutReturn? (segment : Bytes) (length : Nat) : Option Bytes :=
  if segment.getLast? = some carriageReturn then length.ppred.map segment.take
  else some segment

/-- A carriage return at the end of a segment is one of its bytes, so it can be cut off. -/
theorem cutReturn?_length (segment : Bytes) :
    cutReturn? segment segment.length = some (trimReturn segment) := by
  unfold cutReturn? trimReturn
  split
  · next h =>
    cases hlength : segment.length with
    | zero => simp [List.length_eq_zero_iff.mp hlength] at h
    | succ length =>
      rw [Nat.ppred_succ, Option.map_some, List.dropLast_eq_take, hlength, Nat.add_sub_cancel]
  · rfl

/-- The first line that bytes are cut into ends at the first line feed. -/
theorem cutLines_segment {segment : Bytes} (unbroken : lineFeed ∉ segment) (rest : Bytes) :
    cutLines (segment ++ lineFeed :: rest) =
      (trimReturn segment :: (cutLines rest).1, (cutLines rest).2) := by
  have hfirst : cutLines (segment ++ [lineFeed]) = ([trimReturn segment], []) := by
    rw [cutLines_append_singleton, if_pos rfl, cutLines_of_not_mem unbroken]
    rfl
  calc
    _ = cutLines (segment ++ [lineFeed] ++ rest) := by simp
    _ = _ := by rw [cutLines_append, hfirst]; rfl

/-- The lines that were taken off so far, and the bytes that are left. -/
structure Extraction where
  lines : List Bytes
  rest : Bytes
  deriving DecidableEq, Repr

/-- What a round comes to: there is no line feed, or a line is taken off, or one would have to be cut
to less than nothing. -/
inductive Round
  | ended
  | goesOn (after : Extraction)
  | overdrawn
  deriving DecidableEq, Repr

namespace Extraction

def start (bytes : Bytes) : Extraction := ⟨[], bytes⟩

def round (extraction : Extraction) : Round :=
  match extraction.rest.idxOf? lineFeed with
  | none => .ended
  | some position =>
    match cutReturn? ((extraction.rest.take (position + 1)).take position) position with
    | none => .overdrawn
    | some line => .goesOn ⟨extraction.lines ++ [line], extraction.rest.drop (position + 1)⟩

/-- One extraction comes from the other by the line that ends at the first line feed. -/
def TakesLine (before after : Extraction) : Prop :=
  ∃ segment, lineFeed ∉ segment ∧ before.rest = segment ++ lineFeed :: after.rest ∧
    after.lines = before.lines ++ [trimReturn segment]

theorem round_of_unbroken {extraction : Extraction} (unbroken : lineFeed ∉ extraction.rest) :
    extraction.round = .ended := by
  rw [round, List.idxOf?_eq_none_iff.mpr unbroken]

theorem idxOf?_segment {segment : Bytes} (unbroken : lineFeed ∉ segment) (rest : Bytes) :
    (segment ++ lineFeed :: rest).idxOf? lineFeed = some segment.length := by
  induction segment with
  | nil => simp [List.idxOf?_cons]
  | cons byte segment ih =>
    rw [List.mem_cons, not_or] at unbroken
    have hbyte : ¬(byte == lineFeed) = true := fun h ↦ unbroken.1 (beq_iff_eq.mp h).symm
    rw [List.cons_append, List.idxOf?_cons, if_neg hbyte, ih unbroken.2]
    rfl

/-- A round takes the first segment off and trims it. -/
theorem round_segment {segment : Bytes} (unbroken : lineFeed ∉ segment) (lines : List Bytes)
    (rest : Bytes) :
    round ⟨lines, segment ++ lineFeed :: rest⟩ = .goesOn ⟨lines ++ [trimReturn segment], rest⟩ := by
  have hsegment : ((segment ++ lineFeed :: rest).take (segment.length + 1)).take segment.length =
      segment := by
    rw [List.take_take, Nat.min_eq_left (Nat.le_succ _), List.take_left]
  have hrest : (segment ++ lineFeed :: rest).drop (segment.length + 1) = rest := by
    simp
  simp only [round, idxOf?_segment unbroken, hsegment, hrest, cutReturn?_length]

/-- All that a round can come to. -/
theorem round_cases (extraction : Extraction) :
    (lineFeed ∉ extraction.rest ∧ extraction.round = .ended) ∨
      ∃ after, extraction.TakesLine after ∧ extraction.round = .goesOn after := by
  obtain ⟨lines, rest⟩ := extraction
  by_cases h : lineFeed ∈ rest
  · obtain ⟨segment, rest, rfl, unbroken⟩ := List.eq_append_cons_of_mem h
    exact .inr ⟨_, ⟨segment, unbroken, rfl, rfl⟩, round_segment unbroken lines rest⟩
  · exact .inl ⟨h, round_of_unbroken h⟩

/-- A line is cut only where it ends with a carriage return, so it is never too short for that. -/
theorem round_ne_overdrawn (extraction : Extraction) : extraction.round ≠ .overdrawn := by
  rcases extraction.round_cases with ⟨-, hround⟩ | ⟨after, -, hround⟩ <;> simp [hround]

theorem takesLine_of_round {before after : Extraction} (h : before.round = .goesOn after) :
    before.TakesLine after := by
  rcases before.round_cases with ⟨-, hround⟩ | ⟨other, htakes, hround⟩
  · rw [hround] at h
    cases h
  · rw [hround, Round.goesOn.injEq] at h
    exact h ▸ htakes

theorem unbroken_of_ended {extraction : Extraction} (h : extraction.round = .ended) :
    lineFeed ∉ extraction.rest := by
  rcases extraction.round_cases with ⟨hrest, -⟩ | ⟨after, -, hround⟩
  · exact hrest
  · rw [hround] at h
    cases h

namespace TakesLine

variable {before after : Extraction}

/-- Every round uses up one line feed. -/
theorem count (h : before.TakesLine after) :
    before.rest.count lineFeed = after.rest.count lineFeed + 1 := by
  obtain ⟨segment, unbroken, hrest, -⟩ := h
  rw [hrest, List.count_append, List.count_eq_zero.mpr unbroken, List.count_cons_self, Nat.zero_add]

theorem cutLines (h : before.TakesLine after) :
    after.lines ++ (cutLines after.rest).1 = before.lines ++ (cutLines before.rest).1 ∧
      (cutLines after.rest).2 = (cutLines before.rest).2 := by
  obtain ⟨segment, unbroken, hrest, hlines⟩ := h
  rw [hrest, hlines, cutLines_segment unbroken]
  exact ⟨by simp, rfl⟩

end TakesLine

/-- So many rounds lead from one extraction to another. -/
inductive Runs : Nat → Extraction → Extraction → Prop
  | refl (extraction : Extraction) : Runs 0 extraction extraction
  | step {rounds : Nat} {first second last : Extraction} :
    first.round = .goesOn second → Runs rounds second last → Runs (rounds + 1) first last

namespace Runs

variable {rounds : Nat} {first last : Extraction}

/-- A line feed is gone for each round. -/
theorem count (h : Runs rounds first last) :
    rounds + last.rest.count lineFeed = first.rest.count lineFeed := by
  induction h with
  | refl extraction => exact Nat.zero_add _
  | step hround _ ih =>
    have hcount := (takesLine_of_round hround).count
    omega

theorem cutLines (h : Runs rounds first last) :
    last.lines ++ (cutLines last.rest).1 = first.lines ++ (cutLines first.rest).1 ∧
      (cutLines last.rest).2 = (cutLines first.rest).2 := by
  induction h with
  | refl extraction => exact ⟨rfl, rfl⟩
  | step hround _ ih =>
    obtain ⟨hlines, hrest⟩ := (takesLine_of_round hround).cutLines
    exact ⟨ih.1.trans hlines, ih.2.trans hrest⟩

end Runs

/-- The rounds come to an end, and there are as many of them as line feeds. -/
theorem exists_ended (first : Extraction) :
    ∃ last, Runs (first.rest.count lineFeed) first last ∧ last.round = .ended := by
  induction hcount : first.rest.count lineFeed generalizing first with
  | zero => exact ⟨first, .refl first, round_of_unbroken (List.count_eq_zero.mp hcount)⟩
  | succ count ih =>
    rcases first.round_cases with ⟨hrest, -⟩ | ⟨second, htakes, hround⟩
    · rw [List.count_eq_zero.mpr hrest] at hcount
      cases hcount
    · have hsecond : second.rest.count lineFeed = count := by
        have := htakes.count
        omega
      obtain ⟨last, hruns, hended⟩ := ih second hsecond
      exact ⟨last, .step hround hruns, hended⟩

/-- The lines taken off in rounds are those that the bytes are cut into. -/
theorem Runs.cutLines_eq {rounds : Nat} {bytes : Bytes} {last : Extraction}
    (h : Runs rounds (start bytes) last) (ended : last.round = .ended) :
    Output.cutLines bytes = (last.lines, last.rest) := by
  obtain ⟨hlines, hrest⟩ := h.cutLines
  rw [cutLines_of_not_mem (unbroken_of_ended ended)] at hlines hrest
  ext1
  · simpa [start] using hlines.symm
  · exact hrest.symm

end Extraction

namespace LineBuffer

open Extraction

/-- What an operation leaves in a buffer with some limit, and what it gives out. -/
structure Kept (maxLine : Nat) (operation : Operation) (lines : List Bytes) (after : LineBuffer) :
    Prop where
  unbroken : lineFeed ∉ after.held
  within : after.held.length ≤ maxLine
  emptied : operation = .finish → after.held = []
  isEmpty_iff : after.isEmpty = true ↔ after.held = []
  lines_unbroken : ∀ line ∈ lines, lineFeed ∉ line
  lines_within : ∀ line ∈ lines, line.length ≤ maxLine + operation.bytes.length

theorem Settled.kept_push {buffer : LineBuffer} (settled : buffer.Settled) (chunk : Bytes) :
    Kept buffer.maxLine (.push chunk) (buffer.push chunk).1 (buffer.push chunk).2 := by
  have hafter : (buffer.push chunk).2.Settled := settled.apply (.push chunk)
  have hmax : (buffer.push chunk).2.maxLine = buffer.maxLine := buffer.maxLine_apply (.push chunk)
  constructor
  case unbroken => exact hafter.unbroken
  case within => exact hmax ▸ hafter.within
  case emptied => exact nofun
  case isEmpty_iff => exact List.isEmpty_iff
  case lines_unbroken => exact settled.lineFeed_not_mem_push chunk
  case lines_within => exact fun line hmem ↦ length_le_of_mem_push settled hmem

theorem held_finish (buffer : LineBuffer) : buffer.finish.2.held = [] := by
  unfold finish
  split
  · next h => exact List.isEmpty_iff.mp h
  · rfl

theorem Settled.kept_finish {buffer : LineBuffer} (settled : buffer.Settled) :
    Kept buffer.maxLine .finish buffer.finish.1.toList buffer.finish.2 := by
  have hheld := buffer.held_finish
  constructor
  case unbroken => simp [hheld]
  case within => simp [hheld]
  case emptied => exact fun _ ↦ hheld
  case isEmpty_iff => exact List.isEmpty_iff
  case lines_unbroken => exact settled.lineFeed_not_mem_finish
  case lines_within =>
    intro line hmem
    exact Nat.le_add_right_of_le ((length_le_of_mem_finish hmem).trans settled.within)

/-- Every operation keeps a settled buffer within its limit. -/
theorem Settled.kept_apply {buffer : LineBuffer} (settled : buffer.Settled) (operation : Operation) :
    Kept buffer.maxLine operation (buffer.apply operation).1 (buffer.apply operation).2 := by
  cases operation with
  | push chunk => exact settled.kept_push chunk
  | finish => exact settled.kept_finish

/-- What a push makes of a chunk when the lines are taken off. -/
def conclude (buffer : LineBuffer) (chunk : Bytes) (last : Extraction) : List Bytes × LineBuffer :=
  let overlong := buffer.maxLine < last.rest.length
  let lines := if overlong then last.lines ++ [last.rest] else last.lines
  (lines,
    { buffer with
      held := if overlong then [] else last.rest
      totalBytes := buffer.totalBytes + chunk.length
      totalLines := buffer.totalLines + lines.length })

/-- The rounds of a push. -/
structure Extracts (buffer : LineBuffer) (chunk : Bytes) : Prop where
  shortens : ∀ {rounds : Nat} {before after : Extraction},
    Runs rounds (start (buffer.held ++ chunk)) before → before.round = .goesOn after →
      ∃ segment, lineFeed ∉ segment ∧ before.rest = segment ++ lineFeed :: after.rest
  bounded : ∀ {rounds : Nat} {before : Extraction},
    Runs rounds (start (buffer.held ++ chunk)) before →
      rounds ≤ (buffer.held ++ chunk).count lineFeed
  not_overdrawn : ∀ {rounds : Nat} {before : Extraction},
    Runs rounds (start (buffer.held ++ chunk)) before → before.round ≠ .overdrawn
  ends : ∃ last, Runs ((buffer.held ++ chunk).count lineFeed) (start (buffer.held ++ chunk)) last ∧
    last.round = .ended ∧ buffer.push chunk = buffer.conclude chunk last

/-- The rounds of a push give out what the push gives out. -/
theorem Settled.extracts {buffer : LineBuffer} (settled : buffer.Settled) (chunk : Bytes) :
    buffer.Extracts chunk := by
  constructor
  case shortens =>
    intro rounds before after _ hround
    obtain ⟨segment, unbroken, hrest, -⟩ := takesLine_of_round hround
    exact ⟨segment, unbroken, hrest⟩
  case bounded =>
    intro rounds before hruns
    have hcount := hruns.count
    exact Nat.le.intro hcount
  case not_overdrawn => exact fun _ ↦ round_ne_overdrawn _
  case ends =>
    obtain ⟨last, hruns, hended⟩ := exists_ended (start (buffer.held ++ chunk))
    refine ⟨last, hruns, hended, ?_⟩
    rw [push_eq settled, hruns.cutLines_eq hended]
    rfl

theorem Settled.run {buffer : LineBuffer} (settled : buffer.Settled) (operations : List Operation) :
    (buffer.run operations).2.Settled ∧ (buffer.run operations).2.maxLine = buffer.maxLine := by
  induction operations generalizing buffer with
  | nil => exact ⟨settled, rfl⟩
  | cons operation operations ih =>
    obtain ⟨hsettled, hmax⟩ := ih (settled.apply operation)
    exact ⟨hsettled, hmax.trans (buffer.maxLine_apply operation)⟩

/-- Whatever was done with a buffer, the next operation leaves no more in it than a piece of a line
within the limit and gives out lines no longer than the limit and what it brings; and the next push
takes its lines off in as many rounds as there are line feeds, each of which takes its own away. -/
theorem residue_within_limit (maxLine : Nat) (operations : List Operation) :
    let buffer := ((empty maxLine).run operations).2
    (∀ operation : Operation,
      Kept maxLine operation (buffer.apply operation).1 (buffer.apply operation).2) ∧
    ∀ chunk : Bytes, buffer.Extracts chunk := by
  obtain ⟨settled, hmax⟩ := (settled_empty maxLine).run operations
  refine ⟨fun operation ↦ ?_, settled.extracts⟩
  have hkept := settled.kept_apply operation
  rwa [hmax] at hkept

/-- A held carriage return is cut off with the line feed that comes next, the line after it is empty,
and the rest of the push is too long to be held. -/
theorem residue_within_limit_overlong :
    let buffer := ((empty 1).run [.push [13]]).2
    buffer.held = [13] ∧ (buffer.push [10, 10, 98, 99]).1 = [[], [], [98, 99]] ∧
      (buffer.push [10, 10, 98, 99]).2.held.length ≤ 1 ∧
      (∀ line ∈ [[], [], [98, 99]], lineFeed ∉ line ∧ line.length ≤ 1 + 4) ∧
      ∃ last, Runs 2 (start [13, 10, 10, 98, 99]) last ∧ last.round = .ended := by
  obtain ⟨hkept, hextracts⟩ := residue_within_limit 1 [.push [13]]
  have hpush := hkept (.push [10, 10, 98, 99])
  obtain ⟨last, hruns, hended, -⟩ := (hextracts [10, 10, 98, 99]).ends
  refine ⟨rfl, by decide, hpush.within, fun line hmem ↦ ?_, last, hruns, hended⟩
  exact ⟨hpush.lines_unbroken line hmem, hpush.lines_within line hmem⟩

end LineBuffer

end Supervision.Output
