import Supervision.Output.Multiplexer

/-!
# Shared multiplexers

Many writers share one multiplexer.  Each puts its record together by itself, for the width that the
name column has at that moment, takes the lock of the sink, writes the record piece by piece and
gives the lock back.  Between any two of these moves the other writers may move, and sources may be
connected.
-/

namespace Supervision.Output

/-- A call that writes one record. -/
inductive Call
  | line (source : Source) (content : Bytes)
  | status (source : Source) (message : String)
  | error (source : Source) (message : String)
  deriving DecidableEq, Repr

namespace Call

def record (output : Multiplexer) : Call → Bytes
  | line source content => output.record source content
  | status source message => output.record source (output.statusLine message)
  | error source message => output.record source (output.errorLine message)

/-- Makes a call that nothing comes between. -/
def write (output : Multiplexer) : Call → Multiplexer
  | line source content => output.writeLine source content
  | status source message => output.writeStatus source message
  | error source message => output.writeError source message

end Call

/-- One write on the way through a record: when the sink takes nothing, the rest is given up. -/
def Sink.offer (sink : Sink) (bytes : Bytes) : Bytes × Sink :=
  if sink.taken bytes = 0 then ([], sink) else sink.writeSome bytes

/-- How far a writer has come: it makes no call, waits for the lock with its record, or has the lock
and the rest of its record to write. -/
inductive WriterPhase
  | idle
  | waiting (record : Bytes)
  | writing (record rest : Bytes)
  deriving DecidableEq, Repr

/-- A multiplexer and its writers, one of which may hold the lock of the sink. -/
structure Sharing where
  output : Multiplexer
  holder : Option Nat
  writers : List WriterPhase
  deriving DecidableEq, Repr

/-- One move: a source is connected, or the writer of a number makes a call, takes the lock, writes
as much as the sink takes this time, or gives the lock back. -/
inductive SharingMove
  | connect (source : Source)
  | call (writer : Nat) (call : Call)
  | lock (writer : Nat)
  | write (writer : Nat) (acceptance : Acceptance)
  | unlock (writer : Nat)
  deriving DecidableEq, Repr

namespace Sharing

def start (colorize : Bool) (acceptance : Acceptance) (writers : Nat) : Sharing :=
  ⟨.start colorize acceptance, none, List.replicate writers .idle⟩

/-- Writes once for the writer that has this much of its record left. -/
def writeOnce (sharing : Sharing) (writer : Nat) (acceptance : Acceptance) (record rest : Bytes) :
    Sharing :=
  let (rest, sink) := Sink.offer { sharing.output.sink with acceptance } rest
  { sharing with
    output := { sharing.output with sink }
    writers := sharing.writers.set writer (.writing record rest) }

def advance (sharing : Sharing) : SharingMove → Option Sharing
  | .connect source => some { sharing with output := sharing.output.connect source }
  | .call writer call =>
    match sharing.writers[writer]? with
    | some .idle =>
      some
        { sharing with
          writers := sharing.writers.set writer (.waiting (call.record sharing.output)) }
    | _ => none
  | .lock writer =>
    match sharing.holder, sharing.writers[writer]? with
    | none, some (.waiting record) =>
      some
        { sharing with
          holder := some writer
          writers := sharing.writers.set writer (.writing record record) }
    | _, _ => none
  | .write writer acceptance =>
    match sharing.writers[writer]? with
    | some (.writing record (byte :: rest)) =>
      some (sharing.writeOnce writer acceptance record (byte :: rest))
    | _ => none
  | .unlock writer =>
    match sharing.writers[writer]? with
    | some (.writing _ []) =>
      some { sharing with holder := none, writers := sharing.writers.set writer .idle }
    | _ => none

end Sharing

end Supervision.Output
