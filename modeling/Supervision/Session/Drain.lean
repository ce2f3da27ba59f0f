import Supervision.Output.Pipe
import Supervision.Session.Moves

/-!
# One channel on a host

Children put on one channel, one after another, and the reader of that channel.  What they write is
read while they run; the channel is drained once nobody can write to it any more.
-/

namespace Supervision.Session

/-- A channel with its reader. -/
structure Drain where
  host : Host
  output : Output.Multiplexer
  source : Output.Source
  wire : Nat
  reader : Output.Reader
  pipe : Output.Pipe
  alarm : Option Nat
  written : List Bytes

namespace Drain

def start (kind : Output.ChannelKind) (source : Output.Source) (output : Output.Multiplexer)
    (host : Host) : Drain :=
  let (wire, host) := host.openWire kind
  { host
    output := output.connect source
    source
    wire
    reader := .start
    pipe := .start
    alarm := none
    written := [] }

def lines (drain : Drain) : List Bytes := drain.written.reverse

/-- Gives the reader what has come. -/
def readMove? (drain : Drain) : Option Drain := do
  if drain.reader.finished then none
  let (result, host) ← drain.host.readWire drain.wire
  let (content, reader) := drain.reader.step result
  let empty : Output.Multiplexer := { drain.output with sink := .empty .everything }
  let output := content.foldl (fun output copied => copied.write output drain.source) empty
  some
    { drain with
      host
      reader
      written := addLines drain.written output.sink.pieces.reverse }

def next? (drain : Drain) : Option Drain :=
  drain.readMove?.orElse fun _ =>
    (passTime drain.host drain.alarm).map fun host => { drain with host }

/-- Goes on until something is so, for at most so many steps. -/
def goOn (holds : Drain → Bool) : Nat → Drain → Drain
  | 0, drain => drain
  | steps + 1, drain =>
    if holds drain then drain
    else match drain.next? with
    | some drain => goOn holds steps drain
    | none => drain

/-- The most steps that one wait takes. -/
def stepLimit : Nat := 4000000

/-- Lets go of the supervisor's copy of the child's end. -/
def release (drain : Drain) : Drain :=
  { drain with host := drain.host.releaseWire drain.wire }

def channel? (drain : Drain) : Option Output.Channel :=
  (drain.host.wire? drain.wire).map fun wire => wire.channel

def hasEnded (number : Nat) (drain : Drain) : Bool :=
  match drain.host.process? number with
  | some process => process.ended.isSome
  | none => true

/-- Runs a script on the channel and waits for its end. -/
def runScript (drain : Drain) (script : String) : Except Failure (Option ExitStatus) × Drain :=
  match drain.channel?.map Output.Channel.childInput with
  | some (.error failure) => (.error failure, drain)
  | _ =>
    match drain.host.launch ⟨"sh", ["-c", script], .empty, none⟩ drain.wire false with
    | .error cause => (.error (launchFailure "sh" cause), drain)
    | .ok (number, host) =>
      let drain := goOn (hasEnded number) stepLimit { drain with host }
      match drain.host.reap? number with
      | some (status, host) => (.ok (some status), { drain with host })
      | none => (.ok none, drain)

/-- What the pipe answers now to a drain whose time is up at this moment. -/
def answer? (drain : Drain) (time : Nat) : Option (Bool × Output.Pipe) :=
  drain.pipe.drain? drain.reader.finished (decide (time ≤ drain.host.clock))

/-- Waits for at most some time until everything has been written: has it? -/
def wait (drain : Drain) (span : Span) : Bool × Drain :=
  let time := deadline drain.host.clock span
  let waited := goOn (fun drain => (drain.answer? time).isSome) stepLimit
    { drain with alarm := some time }
  match waited.answer? time with
  | some (answer, pipe) => (answer, { waited with pipe, alarm := none })
  | none => (false, { waited with alarm := none })

end Drain

end Supervision.Session
