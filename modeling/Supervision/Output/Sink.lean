import Supervision.Text.Utf8

/-!
# Sinks

Where records end up.  One write may take only some of the bytes it is given, and then the rest is
written again until all are taken; a sink that refuses takes nothing, and the record is lost
without further notice.
-/

namespace Supervision.Output

/-- How much one write takes: everything, at most so many bytes, or nothing because it fails. -/
inductive Acceptance
  | everything
  | atMost (count : Nat)
  | refuses
  deriving DecidableEq, Repr, Inhabited

/-- A sink with the pieces it has taken, newest first. -/
structure Sink where
  acceptance : Acceptance
  pieces : List Bytes
  deriving DecidableEq, Repr, Inhabited

namespace Sink

def empty (acceptance : Acceptance) : Sink := ⟨acceptance, []⟩

def written (sink : Sink) : Bytes := sink.pieces.reverse.flatten

/-- How many of the given bytes the next write takes. -/
def taken (sink : Sink) (bytes : Bytes) : Nat :=
  match sink.acceptance with
  | .everything => bytes.length
  | .atMost count => (bytes.take count).length
  | .refuses => 0

/-- One write: the bytes it leaves, and the sink with those it took. -/
def writeSome (sink : Sink) (bytes : Bytes) : Bytes × Sink :=
  let count := sink.taken bytes
  (bytes.drop count, { sink with pieces := bytes.take count :: sink.pieces })

/-- Writes until nothing is left or a write takes nothing. -/
def writeAll (sink : Sink) (bytes : Bytes) : Sink :=
  if _h : bytes = [] then sink
  else if _hz : sink.taken bytes = 0 then sink
  else (sink.writeSome bytes).2.writeAll (sink.writeSome bytes).1
termination_by bytes.length
decreasing_by
  simp only [writeSome, List.length_drop]
  have := List.length_pos_iff.2 _h
  omega

end Sink

end Supervision.Output
