import Supervision.Host.Step
import Supervision.Host.Signals
import Supervision.Process.Run

/-!
# What a run does next on a host

Given how far a run has come and what the host has to say, at most one move is next.  The host opens
the channel, starts the child, and tells when it has ended and what it wrote.
-/

namespace Supervision.Session

/-- Timers go off at whole milliseconds. -/
def timerGrain : Nat := 1000000

/-- When a timer set now for a span goes off. -/
def deadline (clock : Nat) (span : Span) : Nat :=
  (clock + span.nanos + timerGrain - 1) / timerGrain * timerGrain

/-- A move of a run together with the host after it and the wires of all runs so far. -/
structure Proposal where
  move : RunMove
  host : Host
  wires : List Nat

/-- Lets go of the wire of the present run. -/
def releaseLast (host : Host) (wires : List Nat) : Host :=
  match wires.getLast? with
  | some wire => host.releaseWire wire
  | none => host

/-- Starts the child of a run on its wire, which the supervisor then lets go of. -/
def launchOn (host : Host) (managed : Managed) (wires : List Nat) :
    Except Failure UInt32 × Host :=
  match host.launch managed.spec.command ((wires.getLast?).getD 0) true with
  | .ok (number, host) => (.ok number.toUInt32, releaseLast host wires)
  | .error cause =>
    (.error (launchFailure managed.spec.command.program cause), releaseLast host wires)

/-- The move that a run makes next, if it makes one now; `expired` says that the wait for the rest
of the output is over. -/
def proposal? (host : Host) (managed : Managed) (wires : List Nat) (stopping expired : Bool) :
    RunPhase → Option Proposal
  | .opening =>
    let (wire, host) := host.openWire managed.kind
    some ⟨.openChannel (.ok ()), host, wires ++ [wire]⟩
  | .atGate => some ⟨.lock, host, wires⟩
  | .checking => some ⟨.check (.ok ()), if stopping then releaseLast host wires else host, wires⟩
  | .launching =>
    let (launched, host) := launchOn host managed wires
    some ⟨.launch launched, host, wires⟩
  | .recorded _ => some ⟨.announce, host, wires⟩
  | .waiting pid =>
    (host.reap? pid.toNat).map fun (status, host) => ⟨.reap (.ok status), host, wires⟩
  | .reaped _ => some ⟨.clear, host, wires⟩
  | .cleared _ => some ⟨.publish, host, wires⟩
  | .draining _ =>
    if managed.isDrained then some ⟨.drained, host, wires⟩
    else if expired then some ⟨.drainExpired, host, wires⟩
    else none
  | .reporting _ => some ⟨.report, host, wires⟩
  | .returned _ => none

/-- The first reader that something has come for, with what it is. -/
def arrival? (host : Host) (managed : Managed) (wires : List Nat) :
    Option (Nat × Output.ReadResult × Host) :=
  (List.range managed.readers.length).findSome? fun run => do
    let reader ← managed.readers[run]?
    if reader.finished then none
    else
      let wire ← wires[run]?
      let (result, host) ← host.readWire wire
      some (run, result, host)

/-- The records that events write, in order. -/
def recordsOf (output : Output.Multiplexer) (source : Output.Source) (events : List Event) :
    List Bytes :=
  let empty : Output.Multiplexer := { output with sink := .empty .everything }
  (events.foldl (fun output event => event.write output source) empty).sink.pieces.reverse

/-- The line that a record shows: the record without the line feed at its end. -/
def recordLine (record : Bytes) : Bytes :=
  if record.getLast? = some 0x0a then record.dropLast else record

/-- Puts the lines of some records on top of the lines written before. -/
def addLines (written records : List Bytes) : List Bytes :=
  records.foldl (fun written record => recordLine record :: written) written

/-- Lets time pass: a step of the host, or up to the next timer, whichever is first. -/
def passTime (host : Host) (timer : Option Nat) : Option Host :=
  match host.next?, timer with
  | some next, some time =>
    some (if time < next.clock then { host with clock := max host.clock time } else next)
  | some next, none => some next
  | none, some time => if time ≤ host.clock then none else some { host with clock := time }
  | none, none => none

/-- Sends a signal to the child of a process, if one is recorded. -/
def sendTo (host : Host) (managed : Managed) (signal : Signal) : Except Failure Unit × Host :=
  match managed.pid with
  | none => (.ok (), host)
  | some pid =>
    match host.signalChild pid signal with
    | .ok host => (.ok (), host)
    | .error failure => (.error failure, host)

end Supervision.Session
