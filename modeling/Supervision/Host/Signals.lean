import Supervision.Host.Process
import Supervision.Host.SignalNumber
import Supervision.Signal
import Supervision.Signal.Group

/-!
# Signals on the host

A signal ends the process it reaches, stops it, is passed over, or waits there until the process
takes notice of it.  When a process ends, its descriptors are closed and its children are left to
the host; a process nobody waits for is forgotten.
-/

namespace Supervision.Host

/-- The parent of processes whose own parent has ended. -/
def reaperNumber : Nat := 1

/-- Forgets ended processes that nobody waits for. -/
def forgetOrphans (host : Host) : Host :=
  { host with
    processes := host.processes.filter fun process =>
      process.ended.isNone || process.parent != reaperNumber }

/-- Lets a signal that is caught wait for the process to take notice of it. -/
def Process.note (process : Process) (signal : Nat) : Process :=
  if process.caught.contains signal && !process.pending.contains signal then
    { process with pending := process.pending ++ [signal] }
  else process

/-- Marks a process as ended, and tells its parent. -/
def markEnded (host : Host) (number : Nat) (status : ExitStatus) : Host :=
  let parent := (host.process? number).map Process.parent
  let host := host.modify number fun process =>
    { process with
      ended := some status
      descriptors := []
      pending := []
      ready := host.clock }
  ({ host with
    processes := host.processes.map fun process =>
      if process.parent = number then { process with parent := reaperNumber }
      else if parent = some process.number then process.note childNumber
      else process }
  : Host).forgetOrphans

/-- What a signal does to a process that is no leader of a session. -/
def deliverTo (host : Host) (process : Process) (signal : Nat) : Host :=
  if process.ended.isSome || signal = 0 then host
  else if signal = killNumber then host.markEnded process.number (.signalled signal)
  else
    let host := if signal = continueNumber then
        host.modify process.number fun process => { process with stopped := false }
      else host
    if process.ignored.contains signal && !isUnstoppable signal then host
    else if process.caught.contains signal && !isUnstoppable signal then
      host.modify process.number fun process => process.note signal
    else if isPassedOver signal then host
    else if isStop signal then
      host.modify process.number fun process => { process with stopped := true }
    else host.markEnded process.number (.signalled signal)

/-- The wire whose session a process leads. -/
def ledTerminal? (host : Host) (process : Process) : Option Nat :=
  process.terminal.filter fun wire =>
    match host.wire? wire with
    | some state => state.foreground == some process.number
    | none => false

/-- Hangs up the terminal of a session whose leader has ended, if it has one. -/
def hangUp (host : Host) (leader : Process) : Host :=
  match host.ledTerminal? leader with
  | none => host
  | some wire =>
    match host.wire? wire with
    | none => host
    | some state =>
      if state.hungUp then host
      else
        let host := host.setWire wire { state with hungUp := true }
        let members := host.processes.filter fun process => process.group == leader.group
        members.foldl
          (fun host process =>
            match host.process? process.number with
            | some process =>
              (host.deliverTo process hangupNumber).modify process.number fun process =>
                { process with stopped := false }
            | none => host) host

def finish (host : Host) (number : Nat) (status : ExitStatus) : Host :=
  match host.process? number with
  | none => host
  | some process =>
    if process.ended.isSome then host else (host.markEnded number status).hangUp process

/-- Delivers a signal to a process; one that ends the leader of a session hangs its terminal up. -/
def deliver (host : Host) (number signal : Nat) : Host :=
  match host.process? number with
  | none => host
  | some process =>
    let delivered := host.deliverTo process signal
    let ended := match delivered.process? number with
      | some after => after.ended.isSome && process.ended.isNone
      | none => process.ended.isNone
    if ended then delivered.hangUp process else delivered

def signalGroup (host : Host) (group signal : Nat) : Except Errno Host :=
  let members := host.processes.filter fun process => process.group == group
  if members.isEmpty then .error .noSuchProcess
  else .ok (members.foldl (fun host process => host.deliver process.number signal) host)

/-- Sends a signal to one process; the supervisor's own only takes note of it. -/
def signalProcess (host : Host) (number signal : Nat) : Except Errno Host :=
  if number = supervisorNumber then
    .ok (if signal = 0 then host else { host with received := host.received ++ [signal] })
  else match host.process? number with
  | none => .error .noSuchProcess
  | some _ => .ok (host.deliver number signal)

/-- Sends a stop signal to the group that a child leads. -/
def signalChild (host : Host) (pid : UInt32) (signal : Signal) : Except Failure Host := do
  let group ← Signal.groupLedBy pid
  match host.signalGroup group signal.number with
  | .ok host => .ok host
  | .error errno => .error (.system errno)

end Supervision.Host
