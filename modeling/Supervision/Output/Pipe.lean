/-!
# Output pipes

Whoever has a channel copied holds a pipe to its reader.  A drain waits until the reader has said
that it is done or the time is up, and a reader that was heard once is not waited for again.
-/

namespace Supervision.Output

/-- The way to the reader of a channel, which says only once that it is done. -/
structure Pipe where
  awaited : Bool
  deriving DecidableEq, Repr

namespace Pipe

def start : Pipe := ⟨true⟩

/-- What a drain is answered at some moment, unless it has to wait on: is the reader done? -/
def drain? (pipe : Pipe) (done expired : Bool) : Option (Bool × Pipe) :=
  if !pipe.awaited then some (true, pipe)
  else if done then some (true, ⟨false⟩)
  else if expired then some (false, pipe)
  else none

@[simp]
theorem drain?_start (done expired : Bool) : start.drain? done expired =
    if done then some (true, ⟨false⟩) else if expired then some (false, start) else none := rfl

/-- A reader that has said so is done for every pipe and every time. -/
theorem drain?_done (pipe : Pipe) (expired : Bool) :
    pipe.drain? true expired = some (true, ⟨false⟩) := by
  obtain ⟨_ | _⟩ := pipe <;> rfl

end Pipe

end Supervision.Output
