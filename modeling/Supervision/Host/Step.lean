import Supervision.Host.ShellStep
import Supervision.Host.Utilities
import Supervision.Output.Reader

/-!
# Steps of the host

The host goes on by one step of one process: of those that have nothing to wait for, the one that is
due first.  Time passes up to the moment it is due.
-/

namespace Supervision.Host

/-- Writes for a process.  A pipe that nobody reads ends it, and so does a terminal that is hung up. -/
def emit (host : Host) (number descriptor : Nat) (bytes : Bytes) : Host :=
  match host.write number descriptor bytes with
  | .ok host => host
  | .error errno =>
    if errno = .brokenPipe then host.deliver number pipeNumber else host

/-- The terminal that the input of a process is connected to. -/
def inputTerminal? (host : Host) (number : Nat) : Option (Nat × Wire) := do
  let description ← (host.descriptorOf number 0).bind host.description?
  match description.resource with
  | .wire wire =>
    let state ← host.wire? wire
    if state.channel.isTerminal && !state.hungUp then some (wire, state) else none
  | _ => none

def setImage (host : Host) (number : Nat) (image : Image) : Host :=
  host.modify number fun process => { process with image, ready := host.clock }

/-- Runs a utility that does not wait, and ends its process. -/
def runUtility (host : Host) (process : Process) (name called : String)
    (arguments : List String) : Host :=
  let terminal := host.inputTerminal? process.number
  let call : Call :=
    { name
      called
      arguments
      environment := process.environment
      files := host.filesFor process
      terminal := terminal.map (·.2)
      isTerminal := host.isTerminal process.number }
  let outcome := call.run
  let host := { host with files := { outcome.files with working := host.files.working } }
  let host := match terminal, outcome.terminal with
    | some (number, _), some wire => host.setWire number wire
    | _, _ => host
  let host := outcome.writes.foldl
    (fun host (descriptor, bytes) => host.emit process.number descriptor bytes) host
  host.finish process.number (.exited outcome.status)

/-- Executes a program in the place of a process, in an environment of its own. -/
def executeIn (host : Host) (process : Process) (called : String) (environment : Environment)
    (words : List String) : Host :=
  match host.replaceImage process words environment (environment.find? "PATH") with
  | .ok image =>
    host.modify process.number fun process =>
      { process with image, environment, ready := host.clock + startTime }
  | .error errno =>
    let text := called ++ ": " ++ shown (words.head?.getD "") ++ ": " ++ errno.sentence ++ "\n"
    let status := if errno = .noSuchFile then 127 else 126
    (host.emit process.number 2 (Text.Utf8.encode text)).setImage process.number
      (.finishing status)

def startUtility (host : Host) (process : Process) (name called : String)
    (arguments : List String) : Host :=
  if (misuse? name arguments).isSome then host.runUtility process name called arguments
  else if name == "sleep" then
    match sleepLength arguments with
    | .ok nanos => host.setImage process.number (.sleeping (host.clock + nanos))
    | .error messages =>
      let lines := String.join (messages.map fun message => called ++ ": " ++ message ++ "\n")
      let text := lines ++ "Try '" ++ called ++ " --help' for more information.\n"
      (host.emit process.number 2 (Text.Utf8.encode text)).setImage process.number (.finishing 1)
  else if name == "cat" then
    let options := readOptions arguments
    let paths := if options.operands.isEmpty then ["-"] else options.operands
    host.setImage process.number
      (.copying ⟨called, .ofLetters options.letters, .start, paths, none, 0⟩)
  else if name == "env" then
    match environmentWords process.environment arguments with
    | (environment, first :: words) => host.executeIn process called environment (first :: words)
    | (environment, []) =>
      let text := environmentText environment
      (host.emit process.number 1 (Text.Utf8.encode text)).setImage process.number (.finishing 0)
  else host.runUtility process name called arguments

/-- The descriptor that copied files are opened on. -/
def copyDescriptor : Nat := 3

/-- One step of copying files to the output, unless there is nothing to read yet. -/
def stepCopy (host : Host) (process : Process) (task : Copying) : Option Host :=
  let number := process.number
  let goOn (host : Host) (task : Copying) : Option Host := some (host.setImage number (.copying task))
  let complain (path : String) (errno : Errno) : Host :=
    host.emit number 2
      (Text.Utf8.encode (task.called ++ ": " ++ shownInComplaint path ++ ": " ++ errno.sentence ++ "\n"))
  match task.paths, task.current with
  | [], _ => some (host.setImage number (.finishing task.status))
  | path :: rest, none =>
    if path == "-" then goOn host { task with current := some 0 }
    else match host.openPath process path .input with
    | .ok (description, host) =>
      goOn (host.connect number copyDescriptor (some description))
        { task with current := some copyDescriptor }
    | .error errno => goOn (complain path errno) { task with paths := rest, status := 1 }
  | path :: rest, some descriptor =>
    match host.readFrom number descriptor 131072 with
    | (.blocked, _) => none
    | (.data bytes, host) =>
      let (bytes, place) := task.style.copy task.place bytes
      (goOn host { task with place }).map fun host => host.emit number 1 bytes
    | (.ended, host) => goOn host { task with paths := rest, current := none }
    | (.failed errno, _) =>
      goOn (complain path errno) { task with paths := rest, current := none, status := 1 }

/-- One step of a process, unless it has to wait. -/
def stepProcess (host : Host) (process : Process) : Option Host :=
  match process.image with
  | .shell machine => host.stepShell process.number machine
  | .utility name called arguments => some (host.startUtility process name called arguments)
  | .complaining name message status =>
    let text := name ++ ": " ++ message ++ "\n"
    some ((host.emit process.number 2 (Text.Utf8.encode text)).finish process.number (.exited status))
  | .sleeping _ => some (host.finish process.number (.exited 0))
  | .copying task => host.stepCopy process task
  | .finishing status => some (host.finish process.number (.exited status))

/-- When a process goes on, if it has nothing to wait for. -/
def Process.due (process : Process) : Nat :=
  match process.image with
  | .sleeping wake => max process.ready wake
  | _ => process.ready

/-- The processes that may go on, by the time they are due. -/
def candidates (host : Host) : List Process :=
  (host.processes.filter fun process => process.ended.isNone && !process.stopped).mergeSort
    fun first second => decide (first.due ≤ second.due)

/-- The host after its next step.  Nothing if every process waits for another. -/
def next? (host : Host) : Option Host :=
  host.candidates.findSome? fun process =>
    ({ host with clock := max host.clock process.due }).stepProcess process

/-- Reads what has come over a wire: bytes, or the end once nobody can write any more. -/
def readWire (host : Host) (number : Nat) : Option (Output.ReadResult × Host) := do
  let wire ← host.wire? number
  if wire.pending.isEmpty then
    if host.wireIsHeld number wire then none
    else if wire.channel.isTerminal then some (.failed .inputOutput, host)
    else some (.ended, host)
  else
    some
      (.data (wire.pending.take Output.readSize),
        host.setWire number { wire with pending := wire.pending.drop Output.readSize })

end Supervision.Host
