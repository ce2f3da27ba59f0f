import Mathlib.Data.List.Basic

/-!
# Moves one after another

What makes moves is given by the step that a move comes to in a state, if it can be made there, and
the state that a step leaves.  A trace keeps every move with the state that it was made in and what
came of it, so that all that can be asked about a run later is a matter of its trace.
-/

namespace Supervision

variable {State Move Step : Type}

/-- A move as it was made. -/
structure MadeMove (State Move Step : Type) where
  before : State
  move : Move
  step : Step

/-- The state is reached from the start by these moves. -/
inductive Trace (advance : State → Move → Option Step) (left : Step → State) (start : State) :
    List (MadeMove State Move Step) → State → Prop
  | refl : Trace advance left start [] start
  | tail {past : List (MadeMove State Move Step)} {state : State}
      (run : Trace advance left start past state) (move : Move) {step : Step}
      (made : advance state move = some step) :
      Trace advance left start (past ++ [⟨state, move, step⟩]) (left step)

namespace Trace

/-- Makes some moves one after another, if each can be made. -/
def follow (advance : State → Move → Option Step) (left : Step → State) (state : State) :
    List Move → Option (List (MadeMove State Move Step) × State)
  | [] => some ([], state)
  | move :: moves => do
    let step ← advance state move
    let (future, final) ← follow advance left (left step) moves
    some (⟨state, move, step⟩ :: future, final)

variable {advance : State → Move → Option Step} {left : Step → State} {start middle final : State}
  {past future : List (MadeMove State Move Step)} {moves : List Move}

/-- Traces can be put end to end. -/
theorem trans (first : Trace advance left start past middle)
    (second : Trace advance left middle future final) :
    Trace advance left start (past ++ future) final := by
  induction second with
  | refl => simpa using first
  | tail _ move made ih =>
    rw [← List.append_assoc]
    exact ih.tail move made

theorem head {move : Move} {step : Step} (made : advance start move = some step)
    (rest : Trace advance left (left step) future final) :
    Trace advance left start (⟨start, move, step⟩ :: future) final :=
  (Trace.refl.tail move made).trans rest

/-- Every move was made in the state that the moves before it have reached, and those after it go on
from what it has left. -/
theorem split {made : MadeMove State Move Step} {earlier later : List (MadeMove State Move Step)}
    (run : Trace advance left start (earlier ++ made :: later) final) :
    Trace advance left start earlier made.before ∧
      advance made.before made.move = some made.step ∧
        Trace advance left (left made.step) later final := by
  generalize hpast : earlier ++ made :: later = past at run
  induction run generalizing later with
  | refl => simp at hpast
  | @tail past state run move step hstep ih =>
    rcases List.eq_nil_or_concat later with rfl | ⟨front, last, rfl⟩
    · obtain ⟨rfl, hlast⟩ := List.append_inj' hpast rfl
      cases hlast
      exact ⟨run, hstep, .refl⟩
    · have hassoc : (earlier ++ made :: front) ++ [last] = past ++ [⟨state, move, step⟩] := by
        simpa using hpast
      obtain ⟨hfront, hlast⟩ := List.append_inj' hassoc rfl
      cases hlast
      obtain ⟨hbefore, hmade, hafter⟩ := ih hfront
      rw [List.concat_eq_append]
      exact ⟨hbefore, hmade, hafter.tail move hstep⟩

theorem split_of_mem {made : MadeMove State Move Step} (run : Trace advance left start past final)
    (h : made ∈ past) :
    ∃ earlier later, past = earlier ++ made :: later ∧
      Trace advance left start earlier made.before ∧
        advance made.before made.move = some made.step ∧
          Trace advance left (left made.step) later final := by
  obtain ⟨earlier, later, rfl⟩ := List.append_of_mem h
  exact ⟨earlier, later, rfl, run.split⟩

theorem exists_follow_cons {move : Move} {step : Step} (made : advance start move = some step)
    (rest : ∃ past, follow advance left (left step) moves = some (past, final)) :
    ∃ past, follow advance left start (move :: moves) = some (past, final) := by
  obtain ⟨past, hrest⟩ := rest
  refine ⟨⟨start, move, step⟩ :: past, ?_⟩
  rw [follow, made, Option.bind_eq_bind, Option.bind_some, hrest]
  rfl

/-- Moves can be made up to somewhere, and then the rest of them. -/
theorem exists_follow_of_append {later : List Move}
    (run : follow advance left start (moves ++ later) = some (past, final)) :
    ∃ earlier middle future, follow advance left start moves = some (earlier, middle) ∧
      follow advance left middle later = some (future, final) ∧ past = earlier ++ future := by
  induction moves generalizing start past with
  | nil => exact ⟨[], start, past, rfl, run, rfl⟩
  | cons move moves ih =>
    obtain ⟨step, made, hrest⟩ := Option.bind_eq_some_iff.mp run
    obtain ⟨⟨rest, last⟩, hfollow, heq⟩ := Option.bind_eq_some_iff.mp hrest
    cases heq
    obtain ⟨earlier, middle, future, hfirst, hsecond, rfl⟩ := ih hfollow
    refine ⟨⟨start, move, step⟩ :: earlier, middle, future, ?_, hsecond, rfl⟩
    rw [follow, made, Option.bind_eq_bind, Option.bind_some, hfirst]
    rfl

/-- What holds of no moves at the start, and is kept by each of these moves where it can be made,
holds once all of them are made. -/
theorem keeps_of_follow
    {motive : List Move → List (MadeMove State Move Step) → State → Prop}
    (run : follow advance left start moves = some (past, final)) (holds : motive [] [] start)
    (keeps : ∀ {done : List Move} {past : List (MadeMove State Move Step)} {state : State}
      {move : Move} {step : Step}, move ∈ moves → advance state move = some step →
      motive done past state → motive (done ++ [move]) (past ++ [⟨state, move, step⟩]) (left step)) :
    motive moves past final := by
  suffices hafter : ∀ done earlier, motive done earlier start →
      motive (done ++ moves) (earlier ++ past) final from hafter [] [] holds
  clear holds
  induction moves generalizing start past with
  | nil =>
    cases run
    simp
  | cons move moves ih =>
    obtain ⟨step, made, hrest⟩ := Option.bind_eq_some_iff.mp run
    obtain ⟨⟨rest, last⟩, hfollow, heq⟩ := Option.bind_eq_some_iff.mp hrest
    cases heq
    intro done earlier hdone
    have hnext := ih hfollow (fun hmem ↦ keeps (List.mem_cons_of_mem move hmem)) _ _
      (keeps List.mem_cons_self made hdone)
    simpa using hnext

/-- Moves that were made one after another are a trace. -/
theorem of_follow (run : follow advance left start moves = some (past, final)) :
    Trace advance left start past final :=
  keeps_of_follow (motive := fun _ past state ↦ Trace advance left start past state) run .refl
    fun _ made reached ↦ reached.tail _ made

/-- The moves that were made are those that were to be made. -/
theorem moves_of_follow (run : follow advance left start moves = some (past, final)) :
    past.map MadeMove.move = moves :=
  keeps_of_follow (motive := fun moves past _ ↦ past.map MadeMove.move = moves) run rfl
    fun _ _ same ↦ by rw [List.map_append, same]; rfl

theorem move_mem_of_follow {made : MadeMove State Move Step}
    (run : follow advance left start moves = some (past, final)) (h : made ∈ past) :
    made.move ∈ moves := by
  rw [← moves_of_follow run]
  exact List.mem_map_of_mem h

end Trace

end Supervision
