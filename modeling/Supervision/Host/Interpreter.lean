import Supervision.Host.Conditions
import Supervision.Host.Format
import Supervision.Host.Programs
import Supervision.Host.Signals
import Supervision.Shell.Script

/-!
# Shells on the host

How a shell uses the host: it connects descriptors, makes children of itself, and gives way to the
programs it executes.  Everything the shell does by itself is one step of its machine.
-/

namespace Supervision.Host

open Shell (Machine Command Control Frame Word Redirection)

def stepTime : Nat := 2000

/-- How long it takes until a copy of a process begins. -/
def forkTime : Nat := 200000

/-- A host in which a shell is at work, and the number of its process. -/
structure Working where
  host : Host
  number : Nat
  machine : Machine

namespace Working

def withControl (work : Working) (control : Control) : Working :=
  { work with machine := { work.machine with control } }

/-- Goes on with a command, and with a frame after it. -/
def push (work : Working) (frame : Frame) (command : Command) : Working :=
  { work with
    machine := { work.machine with stack := frame :: work.machine.stack, control := .run command } }

def withVariables (work : Working) (scope : Shell.Variables) : Working :=
  { work with machine := { work.machine with scope } }

/-- The host with the state of the shell put back. -/
def commit (work : Working) : Host :=
  work.host.modify work.number fun process =>
    { process with image := .shell work.machine, ready := work.host.clock + stepTime }

/-- Writes to a descriptor.  A pipe that nobody reads ends the shell. -/
def say (work : Working) (descriptor : Nat) (bytes : Bytes) : Bool × Working :=
  match work.host.write work.number descriptor bytes with
  | .ok host => (true, { work with host })
  | .error errno =>
    if errno = .brokenPipe then
      (false, { work with host := work.host.deliver work.number pipeNumber })
    else (false, work)

/-- Writes a message of one of the shell's commands to the descriptor for complaints. -/
def complainBy (work : Working) (line : Nat) (command message : String) : Working :=
  (work.say 2 (Text.Utf8.encode (work.machine.complaint line (some command) message))).2

def complain (work : Working) (line : Nat) (message : String) : Working :=
  let text := work.machine.complaint line work.machine.reader.within message
  (work.say 2 (Text.Utf8.encode text)).2

/-- The command under way is over.  A failure that nothing looks at may end the shell. -/
def complete (work : Working) (status : Nat) : Working :=
  if status != 0 && work.machine.hasOption 'e' && !Machine.isTested work.machine.stack then
    work.withControl (.leave status)
  else work.withControl (.done status)

def abort (work : Working) (line : Nat) (message : String) : Working :=
  (work.complain line message).withControl .failing

/-- Makes a copy of the process that goes on as another machine. -/
def fork (work : Working) (machine : Machine) : Nat × Working :=
  let number := work.host.nextProcess
  let host := match work.host.process? work.number with
    | none => work.host
    | some process =>
      let child :=
        { process with
          number
          parent := work.number
          caught := []
          pending := []
          image := .shell machine
          ready := work.host.clock + forkTime }
      { work.host with processes := work.host.processes ++ [child], nextProcess := number + 1 }
  (number, { work with host, machine := { work.machine with waited := [] } })

def files (work : Working) : Files.Tree :=
  match work.host.process? work.number with
  | some process => work.host.filesFor process
  | none => work.host.files

/-- Runs an expansion with the variables of the shell. -/
def expand {α : Type} (work : Working) (expanding : Shell.Expanding α) :
    Except String (α × Working) :=
  match expanding.run work.machine.scope with
  | .ok (value, scope) => .ok (value, work.withVariables scope)
  | .error message => .error message

end Working

/-- Why a redirection failed, in the shell's words. -/
def redirectionFault (path : String) (direction : Shell.Direction) (errno : Errno) : String :=
  let creates := direction != .input
  let reason :=
    if errno = .noSuchFile || errno = .notADirectory then
      if creates then "Directory nonexistent" else "No such file"
    else errno.sentence
  "cannot " ++ (if creates then "create " else "open ") ++ path ++ ": " ++ reason

/-- Connects a descriptor of a process to a text that is there to be read. -/
def connectText (host : Host) (number descriptor : Nat) (text : String) : Host :=
  let (out, «in», host) := host.makePipe
  let pipe := match host.description? «in» with
    | some ⟨.pipeIn pipe, _, _⟩ => pipe
    | _ => 0
  let host := { host with pipes := put host.pipes pipe (Text.Utf8.encode text) }
  host.connect number descriptor (some out)

/-- Connects the descriptor of one redirection for a process. -/
def redirect (host : Host) (number : Nat) (redirection : Redirection) (target : String) :
    Except String Host :=
  match redirection.direction with
  | .duplicate =>
    if target == "-" then .ok (host.connect number redirection.descriptor none)
    else match target.toNat? with
    | none => .error ("Bad fd number")
    | some source =>
      match host.descriptorOf number source with
      | none => .error (toString source ++ ": " ++ Errno.badDescriptor.sentence)
      | some description => .ok (host.connect number redirection.descriptor (some description))
  | .document => .ok (host.connectText number redirection.descriptor target)
  | direction =>
    match host.process? number with
    | none => .ok host
    | some process =>
      if Files.Tree.hasNul target then .error (redirectionFault target direction .noSuchFile)
      else match host.openPath process target direction with
      | .ok (description, host) =>
        .ok (host.connect number redirection.descriptor (some description))
      | .error errno => .error (redirectionFault target direction errno)

/-- The texts that the targets of redirections expand to.  Only single digits stand for descriptors
that are taken over, and a minus for none. -/
def expandTargets (work : Working) :
    List Redirection → Except String (List (Redirection × String) × Working)
  | [] => .ok ([], work)
  | redirection :: rest => do
    let (target, work) ← work.expand (Shell.expandText redirection.target)
    let isDigit := target.length = 1 && target.toList.all Char.isDigit
    if redirection.direction = .duplicate && !isDigit && target != "-" then
      throw "Syntax error: Bad fd number"
    let (more, work) ← expandTargets work rest
    return ((redirection, target) :: more, work)

/-- Connects the descriptors of several redirections, for the shell itself or a child of it. -/
def redirectAll (work : Working) (number : Nat) :
    List (Redirection × String) → Except String Working
  | [] => .ok work
  | (redirection, target) :: rest => do
    if redirection.direction = .output && work.machine.hasOption 'C' then
      if let .ok (.file ..) := work.files.find target then
        throw ("cannot create " ++ target ++ ": " ++ Errno.fileExists.sentence)
    let host ← redirect work.host number redirection target
    redirectAll { work with host } number rest

/-- What the descriptors of some redirections are connected to now. -/
def savedDescriptors (work : Working) (redirections : List Redirection) :
    List (Nat × Option Nat) :=
  redirections.map fun redirection =>
    (redirection.descriptor, work.host.descriptorOf work.number redirection.descriptor)

def restoreDescriptors (work : Working) (saved : List (Nat × Option Nat)) : Working :=
  { work with
    host := saved.foldr
      (fun (descriptor, description) host => host.connect work.number descriptor description)
      work.host }

/-- The first command substitution that a command needs before it can go on. -/
def pendingSubstitution? (scope : Shell.Variables) : Command → Option String
  | .simple assignments words redirections _ =>
    let all := words ++ redirections.map Redirection.target ++ assignments.map (·.2)
    all.findSome? (Shell.firstSubstitution? scope)
  | .redirected _ redirections _ =>
    (redirections.map Redirection.target).findSome? (Shell.firstSubstitution? scope)
  | .each _ (some words) _ => words.findSome? (Shell.firstSubstitution? scope)
  | .choice subject clauses =>
    (subject :: clauses.flatMap (·.1)).findSome? (Shell.firstSubstitution? scope)
  | _ => none

/-- Puts captured text into the first of some words that waits for it. -/
def putIntoWords (scope : Shell.Variables) (output : String) : List Word → List Word
  | [] => []
  | word :: rest =>
    if (Shell.firstSubstitution? scope word).isSome then
      Shell.putCaptured scope output word :: rest
    else word :: putIntoWords scope output rest

def putIntoRedirections (scope : Shell.Variables) (output : String)
    (redirections : List Redirection) : List Redirection :=
  (redirections.zip (putIntoWords scope output (redirections.map Redirection.target))).map
    fun (redirection, target) => { redirection with target }

def anyPending (scope : Shell.Variables) (words : List Word) : Bool :=
  words.any fun word => (Shell.firstSubstitution? scope word).isSome

/-- Clauses with captured text in the first pattern that waits for it. -/
def putIntoClauses (scope : Shell.Variables) (output : String) :
    List (List Word × Command) → List (List Word × Command)
  | [] => []
  | (patterns, body) :: rest =>
    if anyPending scope patterns then (putIntoWords scope output patterns, body) :: rest
    else (patterns, body) :: putIntoClauses scope output rest

/-- A command with captured text in the place of its first substitution. -/
def putIntoCommand (scope : Shell.Variables) (output : String) : Command → Command
  | .simple assignments words redirections line =>
    if anyPending scope words then
      .simple assignments (putIntoWords scope output words) redirections line
    else if anyPending scope (redirections.map Redirection.target) then
      .simple assignments words (putIntoRedirections scope output redirections) line
    else
      let values := putIntoWords scope output (assignments.map (·.2))
      .simple ((assignments.map (·.1)).zip values) words redirections line
  | .redirected body redirections line =>
    .redirected body (putIntoRedirections scope output redirections) line
  | .each name (some words) body => .each name (some (putIntoWords scope output words)) body
  | .choice subject clauses =>
    if anyPending scope [subject] then .choice (Shell.putCaptured scope output subject) clauses
    else .choice subject (putIntoClauses scope output clauses)
  | command => command

/-- The smallest descriptor from ten on that is not in use. -/
def privateDescriptor (work : Working) : Nat :=
  match work.host.process? work.number with
  | none => 10
  | some process =>
    ((List.range 100).map (· + 10)).find?
      (fun descriptor => (process.descriptors.lookup descriptor).isNone) |>.getD 10

def startCapture (work : Working) (script : String) (resume : Command) : Working :=
  let (out, «in», host) := work.host.makePipe
  let work := { work with host }
  let child :=
    { work.machine.child .nothing with
      reader := { work.machine.reader with
        source := .ofText script.toList work.machine.line, mayReplace := true }
      control := .nextLine }
  let (number, work) := work.fork child
  let descriptor := privateDescriptor work
  let host := (work.host.connect number 1 (some «in»)).connect work.number descriptor (some out)
  ({ work with host }).withControl (.capturing number descriptor [] resume)

/-- Text without the line ends at its end and without characters zero. -/
def capturedText (output : Bytes) : String :=
  let kept := (output.filter (· != 0)).reverse.dropWhile (· == 0x0a)
  Text.Utf8.decodeLenient kept.reverse

/-- May the shell give way to the program it executes?  There is nothing left to do afterwards. -/
def mayGiveWay (work : Working) : Bool :=
  let machine := work.machine
  let finished := match Shell.Scanner.isOver.run machine.reader.source with
    | .ok finished _ => finished
    | .error _ _ => false
  machine.reader.mayReplace && machine.caught.isEmpty && !machine.traps.any (fun trap => trap.1 == 0)
    && match machine.stack with
      | [] | [.script] => finished
      | _ => false

/-- The status in which a child ended, as the shell counts it. -/
def statusNumber (status : ExitStatus) : Nat :=
  match status.code, status.signal with
  | some code, _ => code.toNat
  | none, some signal => 128 + signal.toNat
  | none, none => 1

/-- The status of a child of the shell, if it has ended. -/
def endedChild? (work : Working) (child : Nat) : Option ExitStatus :=
  match work.machine.ended.lookup child, work.host.process? child with
  | some status, _ => some status
  | none, some process => process.ended
  | none, none => some (.exited 127)

/-- Takes children that have ended off the host. -/
def collectChildren (host : Host) (children : List Nat) : Host :=
  { host with
    processes := host.processes.filter fun process =>
      !(children.contains process.number && process.ended.isSome) }

def forgetChildren (work : Working) (children : List Nat) : Working :=
  let machine := work.machine
  { work with
    host := work.host.collectChildren children
    machine := { machine with
      jobs := machine.jobs.filter fun job => !children.contains job
      ended := machine.ended.filter fun entry => !children.contains entry.1 } }

/-- How long it takes until the end of a child is noted between two commands. -/
def endTime : Nat := 100000

/-- Notes how jobs ended that have done so for some time. -/
def noteEnded (work : Working) (delay : Nat) : Working :=
  let news := work.machine.jobs.filterMap fun job => do
    let process ← work.host.process? job
    let status ← process.ended
    if process.ready + delay ≤ work.host.clock then some (job, status) else none
  { work with
    host := work.host.collectChildren (news.map (·.1))
    machine := { work.machine with ended := news ++ work.machine.ended } }

/-- Tells which signal ended a child, unless it is one that users send. -/
def tellSignal (work : Working) (status : ExitStatus) : Working :=
  match status.signal with
  | some signal =>
    if signal = interruptNumber || signal = pipeNumber then work
    else (work.say 2 (Text.Utf8.encode (signalDescription signal.toNat ++ "\n"))).2
  | none => work

/-- The loops around the command under way, up to the call of a function. -/
def loopDepth : List Frame → Nat
  | [] => 0
  | .tested .. :: rest | .looped .. :: rest | .eachWord .. :: rest => loopDepth rest + 1
  | .called .. :: _ => 0
  | _ :: rest => loopDepth rest

def restoreFormers (work : Working) (formers : List Shell.Former) : Working :=
  work.withVariables
    (formers.foldl (fun scope former => former.restore scope) work.machine.scope)

/-- Takes frames away down to a loop, `count` loops deep; descriptors are connected as they were
before each. -/
def unwindLoop (work : Working) : Nat → List Frame → Option (Frame × Working)
  | _, [] => none
  | count, frame :: rest =>
    let work := { work with machine := { work.machine with stack := rest } }
    match frame with
    | .tested .. | .looped .. | .eachWord .. =>
      if count ≤ 1 then some (frame, work) else unwindLoop work (count - 1) rest
    | .restore saved => unwindLoop (restoreDescriptors work saved) count rest
    | .assigned formers => unwindLoop (restoreFormers work formers) count rest
    | .evaluated reader _ | .trapped reader _ =>
      unwindLoop { work with machine := { work.machine with reader } } count rest
    | .called .. => none
    | _ => unwindLoop work count rest

def unwindCall (work : Working) : List Frame → Option Working
  | [] => none
  | frame :: rest =>
    let work := { work with machine := { work.machine with stack := rest } }
    match frame with
    | .called parameters locals =>
      let work := restoreFormers work locals
      some (work.withVariables { work.machine.scope with parameters })
    | .evaluated reader isFile =>
      let work := { work with machine := { work.machine with reader } }
      if isFile then some work else unwindCall work rest
    | .restore saved => unwindCall (restoreDescriptors work saved) rest
    | .assigned formers => unwindCall (restoreFormers work formers) rest
    | _ => unwindCall work rest

end Supervision.Host
