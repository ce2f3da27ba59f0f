import Supervision.Session.Moves

/-!
# One process on a host

A managed process by itself, without a restart loop.  At most one run is under way; it goes on while
something is waited for, and stands still in between.
-/

namespace Supervision.Session

/-- A managed process on a host and the run that is under way, if one is. -/
structure Single where
  host : Host
  managed : Managed
  output : Output.Multiplexer
  wires : List Nat
  stopping : Bool
  phase : Option RunPhase
  timer : Option Nat
  alarm : Option Nat
  written : List Bytes

namespace Single

def start (managed : Managed) (output : Output.Multiplexer) (host : Host) : Single :=
  { host
    managed
    output := output.connect managed.source
    wires := []
    stopping := false
    phase := none
    timer := none
    alarm := none
    written := [] }

def lines (single : Single) : List Bytes := single.written.reverse

/-- Writes what the process itself writes. -/
def write (single : Single)
    (writer : Output.Multiplexer → Output.Source → Output.Multiplexer) : Single :=
  let empty : Output.Multiplexer := { single.output with sink := .empty .everything }
  let records := (writer empty single.managed.source).sink.pieces.reverse
  { single with written := addLines single.written records }

def record (single : Single) (events : List Event) : Single :=
  events.foldl (fun single event => single.write event.write) single

/-- The result of the run that is under way, once there is one. -/
def result? (single : Single) : Option RunResult :=
  match single.phase with
  | some (.returned result) => some result
  | _ => none

/-- Is the process not running, as far as it says? -/
def isStopped (single : Single) : Bool := !decide (single.managed.state = .running)

def begin (single : Single) : Single := { single with phase := some .opening }

/-- Asks for no more runs to be started. -/
def cancel (single : Single) : Single := { single with stopping := true }

def interrupt (single : Single) : Single :=
  let (sent, host) := sendTo single.host single.managed single.managed.spec.stopSignal
  ({ single with host }).record (single.managed.interrupt sent)

def kill (single : Single) : Single :=
  let (sent, host) := sendTo single.host single.managed .kill
  ({ single with host }).record (single.managed.kill sent)

/-- What a reader has to read. -/
def readMove? (single : Single) : Option Single := do
  let (run, result, host) ← arrival? single.host single.managed single.wires
  let (managed, events) ← single.managed.read run result
  some (({ single with host, managed }).record events)

/-- Has the wait for the rest of the output gone on for long enough? -/
def isExpired (single : Single) : Bool :=
  match single.timer with
  | some time => decide (time ≤ single.host.clock)
  | none => false

/-- Sets the timer of a run that waits for the rest of its output. -/
def setTimer (single : Single) : Single :=
  match single.phase, single.timer with
  | some (.draining _), some _ => single
  | some (.draining _), none =>
    { single with timer := some (deadline single.host.clock drainTimeout) }
  | _, _ => { single with timer := none }

/-- The move that the run makes next. -/
def runMove? (single : Single) : Option Single := do
  let phase ← single.phase
  let proposal ←
    proposal? single.host single.managed single.wires single.stopping single.isExpired phase
  let step ← single.managed.advance single.stopping phase proposal.move
  let moved : Single :=
    { single with
      host := proposal.host
      wires := proposal.wires
      managed := step.managed
      phase := some step.phase }
  some (moved.record step.events).setTimer

/-- Lets time pass on the host. -/
def pass? (single : Single) : Option Single :=
  (passTime single.host (single.timer.toList ++ single.alarm.toList).min?).map fun host =>
    { single with host }

def next? (single : Single) : Option Single :=
  single.readMove?.orElse fun _ => single.runMove?.orElse fun _ => single.pass?

def goOn (holds : Single → Bool) : Nat → Single → Single
  | 0, single => single
  | steps + 1, single =>
    if holds single then single
    else match single.next? with
    | some single => goOn holds steps single
    | none => single

def stepLimit : Nat := 4000000

def waitUntil (single : Single) (holds : Single → Bool) : Single := goOn holds stepLimit single

/-- Waits for the end of the run under way and gives its result. -/
def join (single : Single) : Option RunResult × Single :=
  let ended := single.waitUntil fun single => single.result?.isSome
  (ended.result?, { ended with phase := none })

def run (single : Single) : Option RunResult × Single := single.begin.join

/-- Begins a run and waits until a line has been written once more than before: has it? -/
def runUntilLine (single : Single) (line : Bytes) : Bool × Single :=
  let before := single.written.count line
  let isThere (single : Single) : Bool := decide (before < single.written.count line)
  let reached := single.begin.waitUntil fun single => isThere single || single.result?.isSome
  (isThere reached, reached)

/-- Waits for at most some time until the process is not running: is it not? -/
def waitStopped (single : Single) (span : Span) : Bool × Single :=
  let time := deadline single.host.clock span
  let reached := ({ single with alarm := some time }).waitUntil fun single =>
    single.isStopped || decide (time ≤ single.host.clock)
  (reached.isStopped, { reached with alarm := none })

end Single

end Supervision.Session
