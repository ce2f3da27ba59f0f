import Supervision.Errno
import Supervision.Output.LineBuffer

/-!
# Output readers

A reader copies what arrives on a channel, line by line, until the stream ends.  The end of a pipe
and the hang-up of a terminal end it alike, an interruption changes nothing, and any other error is
written after the complete lines and before the partial line that is left.
-/

namespace Supervision.Output

/-- What one read of a channel gives. -/
inductive ReadResult
  | data (chunk : Bytes)
  | ended
  | failed (errno : Errno)
  deriving DecidableEq, Repr

/-- What a reader has written: lines of the child, or the error that stopped it. -/
inductive Copied
  | line (content : Bytes)
  | error (message : String)
  deriving DecidableEq, Repr

/-- The most bytes one read gives. -/
def readSize : Nat := 8192

/-- A reader at work or done. -/
structure Reader where
  buffer : LineBuffer
  finished : Bool
  deriving DecidableEq, Repr

namespace Reader

def start : Reader := ⟨.empty LineBuffer.defaultMaxLine, false⟩

/-- Writes the partial line, if there is one, and stops. -/
def close (reader : Reader) : List Copied × Reader :=
  let (rest, buffer) := reader.buffer.finish
  (rest.toList.map .line, ⟨buffer, true⟩)

/-- Takes the result of one read. -/
def step (reader : Reader) (result : ReadResult) : List Copied × Reader :=
  if reader.finished then ([], reader)
  else match result with
  | .data [] => reader.close
  | .data chunk =>
    let (lines, buffer) := reader.buffer.push chunk
    (lines.map .line, { reader with buffer })
  | .ended => reader.close
  | .failed errno =>
    if errno = .interrupted then ([], reader)
    else if errno = .inputOutput then reader.close
    else
      let (rest, reader) := reader.close
      (.error errno.report :: rest, reader)

/-- Everything that is written for a sequence of reads. -/
def copy (reader : Reader) : List ReadResult → List Copied
  | [] => []
  | result :: results =>
    let (written, reader) := reader.step result
    written ++ reader.copy results

end Reader

end Supervision.Output
