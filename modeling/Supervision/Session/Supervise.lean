import Supervision.Session.Moves
import Supervision.Session.Watch

/-!
# Supervision on a host

Runs a supervisor with real children.  As long as something can move it does; when nothing can, what
watches asked for is done; and when that is done too, the host goes on or a timer goes off, whichever
is first.
-/

namespace Supervision

open Session (Proposal Watch Errand Answer Reaction)

/-- A supervisor at work on a host. -/
structure Session where
  host : Host
  system : System
  output : Output.Multiplexer
  subscribed : List Signal
  wires : List (List Nat)
  timers : List (Option Nat)
  graceTimer : Option Nat
  written : List Bytes
  logs : List String
  watches : List Watch
  errands : List Errand
  answers : List Answer

namespace Session

def start (supervisor : Supervisor) (host : Host) (watches : List Watch) (logs : List String) :
    Session :=
  { host
    system := .ofSupervisor supervisor
    output := supervisor.output
    subscribed := supervisor.subscribed
    wires := supervisor.processes.map fun _ => []
    timers := supervisor.processes.map fun _ => none
    graceTimer := none
    written := []
    logs
    watches
    errands := []
    answers := [] }

def lines (session : Session) : List Bytes := session.written.reverse

def withSystem (session : Session) (step : SystemStep) : Session :=
  { session with system := step.system }

/-- Takes note of what happened: records are written and messages logged. -/
def record (session : Session) : List Occurrence → Session
  | [] => session
  | .logged message :: rest => { session with logs := session.logs ++ [message] }.record rest
  | .process index event :: rest =>
    match session.system.tasks[index]? with
    | none => session.record rest
    | some task =>
      let records := recordsOf session.output task.managed.source [event]
      { session with
        written := addLines session.written records }.record rest

/-- Lets the watches react whose lines are there.  A stop takes effect at once; all else waits until
nothing can move. -/
def react (session : Session) : Session :=
  let due := session.watches.filter fun watch => watch.isDue session.written
  let waiting := session.watches.filter fun watch => !watch.isDue session.written
  let stops := due.any fun watch => watch.reaction matches .stop
  let errands := due.filterMap fun watch =>
    match watch.reaction with
    | .stop => none
    | reaction => some ⟨reaction, []⟩
  let session := { session with watches := waiting, errands := session.errands ++ errands }
  if stops then
    match session.system.advance .stop with
    | some step => session.withSystem step
    | none => session
  else session

/-- Makes a move of the system, if it can be made. -/
def make? (session : Session) (move : Move) : Option Session :=
  (session.system.advance move).map fun step =>
    ((session.withSystem step).record step.occurrences).react

/-- Sets the timer of a task that waits for a time. -/
def setTimer (session : Session) (index : Nat) : Session :=
  match session.system.tasks[index]? with
  | none => session
  | some task =>
    let span := match task.phase with
      | .running (.draining _) => some drainTimeout
      | .delaying delay => some delay
      | _ => none
    let timer := match span, session.timers[index]? with
      | some _, some (some time) => some time
      | some span, _ => some (deadline session.host.clock span)
      | none, _ => none
    { session with timers := session.timers.set index timer }

/-- Has the timer of a task gone off? -/
def isExpired (session : Session) (index : Nat) : Bool :=
  match session.timers[index]? with
  | some (some time) => decide (time ≤ session.host.clock)
  | _ => false

/-- What a reader of a task has to read. -/
def readMove? (session : Session) (index : Nat) : Option Session := do
  let task ← session.system.tasks[index]?
  let wires ← session.wires[index]?
  let (run, result, host) ← arrival? session.host task.managed wires
  ({ session with host }).make? (.task index (.read run result))

/-- The move that a task makes next. -/
def taskMove? (session : Session) (index : Nat) : Option Session := do
  let task ← session.system.tasks[index]?
  let session ← match task.phase with
    | .running (.returned _) => session.make? (.task index .settle)
    | .running phase =>
      let wires ← session.wires[index]?
      let proposal ←
        proposal? session.host task.managed wires session.system.stopping (session.isExpired index)
          phase
      ({ session with
        host := proposal.host
        wires := session.wires.set index proposal.wires }).make?
        (.task index (.run proposal.move))
    | .checking => session.make? (.task index .check)
    | .deciding => session.make? (.task index .decide)
    | .delaying _ =>
      if session.system.stopping then session.make? (.task index .cancel)
      else if session.isExpired index then session.make? (.task index .wake)
      else none
    | .returned _ => none
  some (session.setTimer index)

/-- The move that the shutdown makes next. -/
def shutdownMove? (session : Session) : Option Session :=
  let system := session.system
  match system.shutdown with
  | .idle => session.make? .beginShutdown
  | .interrupting index =>
    match system.unlocked? index with
    | some task =>
      let (sent, host) := sendTo session.host task.managed task.managed.spec.stopSignal
      ({ session with host }).make? (.interrupt sent)
    | none =>
      ({ session with
        graceTimer := some (deadline session.host.clock system.gracefulTimeout) }).make? .interrupted
  | .awaiting _ =>
    match session.make? .stopped with
    | some session => some session
    | none =>
      match session.graceTimer with
      | some time => if time ≤ session.host.clock then session.make? .expire else none
      | none => none
  | .killing index =>
    match system.unlocked? index with
    | some task =>
      let (sent, host) := sendTo session.host task.managed .kill
      ({ session with host }).make? (.kill sent)
    | none => session.make? .killed
  | .finished | .abandoned => none

/-- A signal that came to the supervisor, if it is one that asks for a stop. -/
def receive? (session : Session) : Option Session :=
  match session.host.received with
  | [] => none
  | signal :: rest =>
    let session := { session with host := { session.host with received := rest } }
    if session.subscribed.any fun expected => expected.number == signal then session.make? .stop
    else some session

/-- Does what is next of what watches asked for. -/
def errand? (session : Session) : Option Session :=
  match session.errands with
  | [] => none
  | errand :: rest =>
    let (outcome, stops) := errand.advance session.system
    let session := match outcome with
      | .inl answer => { session with errands := rest, answers := session.answers ++ [answer] }
      | .inr left => { session with errands := left :: rest }
    if stops then session.make? .stop else some session

/-- The time at which the next timer goes off. -/
def nextTimer? (session : Session) : Option Nat :=
  let grace := match session.system.shutdown with
    | .awaiting _ => session.graceTimer
    | _ => none
  (session.timers.filterMap id ++ grace.toList).min?

/-- Lets time pass on the host. -/
def pass? (session : Session) : Option Session :=
  (passTime session.host session.nextTimer?).map fun host => { session with host }

def next? (session : Session) : Option Session :=
  let indices := List.range session.system.tasks.length
  (indices.findSome? session.readMove?).orElse fun _ =>
    session.receive?.orElse fun _ =>
      (indices.findSome? session.taskMove?).orElse fun _ =>
        session.shutdownMove?.orElse fun _ =>
          (indices.findSome? fun index => session.make? (.join index)).orElse fun _ =>
            (session.make? .finish).orElse fun _ =>
              session.errand?.orElse fun _ =>
                if session.system.result.isSome then none else session.pass?

/-- Runs a session for at most so many steps. -/
def runFor : Nat → Session → Session
  | 0, session => session
  | steps + 1, session =>
    match session.next? with
    | some session => runFor steps session
    | none => session

def stepLimit : Nat := 4000000

def run (session : Session) : Session := session.runFor stepLimit

end Session

end Supervision
