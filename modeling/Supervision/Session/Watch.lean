import Supervision.System

/-!
# Watches

A watch waits until each of its lines has been written a number of times, and then does something
once: it asks for a stop, looks at all processes, or sends requests over the admin socket.
-/

namespace Supervision.Session

inductive Reaction
  | stop
  | snapshot
  | requestStop
  | admin (requests : List Admin.Request)
  deriving Repr

/-- Lines to wait for, and what to do then. -/
structure Watch where
  lines : List Bytes
  times : Nat
  reaction : Reaction
  deriving Repr

/-- Has every line been written often enough? -/
def Watch.isDue (watch : Watch) (written : List Bytes) : Bool :=
  watch.lines.all fun line => decide (watch.times ≤ written.count line)

/-- What came of a reaction. -/
inductive Answer
  | statuses (processes : List ProcessStatus)
  | stopping (value : Bool)
  | replies (responses : List Admin.Response)
  deriving Repr

/-- A reaction under way, with the replies it has had so far. -/
structure Errand where
  reaction : Reaction
  replies : List Admin.Response
  deriving Repr

/-- Carries an errand on: the answer if it is done, or what is left of it, and whether it asked for
a stop. -/
def Errand.advance (errand : Errand) (system : System) : (Answer ⊕ Errand) × Bool :=
  match errand.reaction with
  | .stop => (.inl (.stopping true), true)
  | .snapshot => (.inl (.statuses system.statuses), false)
  | .requestStop => (.inl (.stopping true), true)
  | .admin [] => (.inl (.replies errand.replies), false)
  | .admin (request :: rest) =>
    let (response, control) := system.control.handle request
    let replies := errand.replies ++ [response]
    let stops := 0 < control.stopRequests
    match rest with
    | [] => (.inl (.replies replies), stops)
    | _ => (.inr ⟨.admin rest, replies⟩, stops)

end Supervision.Session
