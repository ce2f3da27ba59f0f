import Supervision.Text.Utf8

/-!
# Line buffers

A line buffer puts the lines of a byte stream together again, however the stream is cut into
chunks.  A line ends at a line feed and loses one carriage return before it.  A partial line longer
than the limit is given out as it is, and what is left at the end of the stream is the last line.
-/

namespace Supervision.Output

def lineFeed : UInt8 := 0x0a

def carriageReturn : UInt8 := 0x0d

/-- A line without one carriage return at its end. -/
def trimReturn (line : Bytes) : Bytes :=
  if line.getLast? = some carriageReturn then line.dropLast else line

/-- The lines cut off so far, newest first, and the bytes of the line under way, newest first. -/
structure Cut where
  lines : List Bytes
  current : Bytes
  deriving DecidableEq, Repr

/-- Takes one byte: a line feed ends the line under way. -/
def Cut.step (cut : Cut) (byte : UInt8) : Cut :=
  if byte = lineFeed then ⟨trimReturn cut.current.reverse :: cut.lines, []⟩
  else { cut with current := byte :: cut.current }

/-- The complete lines of a byte sequence and what follows the last of them. -/
def cutLines (bytes : Bytes) : List Bytes × Bytes :=
  let cut := bytes.foldl Cut.step ⟨[], []⟩
  (cut.lines.reverse, cut.current.reverse)

/-- A partial line with what was read and given out so far. -/
structure LineBuffer where
  maxLine : Nat
  held : Bytes
  totalBytes : Nat
  totalLines : Nat
  deriving DecidableEq, Repr

/-- The counts a buffer reports: bytes held, bytes read and lines given out. -/
structure BufferStats where
  heldBytes : Nat
  totalBytes : Nat
  totalLines : Nat
  deriving DecidableEq, Repr

namespace LineBuffer

/-- The longest partial line kept, unless something else is asked for. -/
def defaultMaxLine : Nat := 65536

def empty (maxLine : Nat) : LineBuffer := ⟨maxLine, [], 0, 0⟩

/-- Appends a chunk and gives out every line that it completes, and the partial line as well if it
has grown too long. -/
def push (buffer : LineBuffer) (chunk : Bytes) : List Bytes × LineBuffer :=
  if chunk.isEmpty then ([], buffer)
  else
    let (complete, rest) := cutLines (buffer.held ++ chunk)
    let overlong := buffer.maxLine < rest.length
    let lines := if overlong then complete ++ [rest] else complete
    (lines,
      { buffer with
        held := if overlong then [] else rest
        totalBytes := buffer.totalBytes + chunk.length
        totalLines := buffer.totalLines + lines.length })

/-- Gives out the partial line, if there is one. -/
def finish (buffer : LineBuffer) : Option Bytes × LineBuffer :=
  if buffer.held.isEmpty then (none, buffer)
  else
    (some (trimReturn buffer.held),
      { buffer with held := [], totalLines := buffer.totalLines + 1 })

def isEmpty (buffer : LineBuffer) : Bool := buffer.held.isEmpty

def stats (buffer : LineBuffer) : BufferStats :=
  ⟨buffer.held.length, buffer.totalBytes, buffer.totalLines⟩

end LineBuffer

end Supervision.Output
