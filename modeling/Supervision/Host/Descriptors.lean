import Supervision.Host.Process
import Supervision.Shell.Command

/-!
# Descriptors

Opening, closing, reading and writing on behalf of a process.  Descriptors that were duplicated
share one position, and what is written to a wire or a pipe waits there until it is read.
-/

namespace Supervision.Host

/-- Makes an open file of its own. -/
def freshDescription (host : Host) (resource : Resource) (position : Nat) (appends : Bool) :
    Nat × Host :=
  (host.nextNumber,
    { host with
      descriptions := (host.nextNumber, ⟨resource, position, appends⟩) :: host.descriptions
      nextNumber := host.nextNumber + 1 })

/-- Connects a descriptor of a process, or closes it. -/
def connect (host : Host) (process descriptor : Nat) (description : Option Nat) : Host :=
  host.modify process fun process =>
    let others := process.descriptors.filter fun entry => entry.1 != descriptor
    { process with
      descriptors := match description with
        | some number => (descriptor, number) :: others
        | none => others }

def descriptorOf (host : Host) (process descriptor : Nat) : Option Nat :=
  (host.process? process).bind fun process => process.descriptors.lookup descriptor

/-- Makes a pipe and opens both of its ends, the one to read from first. -/
def makePipe (host : Host) : Nat × Nat × Host :=
  let number := host.nextNumber
  let host :=
    { host with pipes := (number, []) :: host.pipes, nextNumber := host.nextNumber + 1 }
  let (out, host) := host.freshDescription (.pipeOut number) 0 false
  let («in», host) := host.freshDescription (.pipeIn number) 0 false
  (out, «in», host)

/-- The descriptor that a device name stands for. -/
def deviceDescriptor? : List String → Option Nat
  | ["dev", "stdin"] => some 0
  | ["dev", "stdout"] => some 1
  | ["dev", "stderr"] => some 2
  | _ => none

/-- What a device of a process is: its terminal, or what one of its descriptors is connected to. -/
def deviceResource? (host : Host) (process : Process) (name : List String) :
    Option (Except Errno Resource) :=
  if name == ["dev", "tty"] then
    some (process.terminal.elim (.error .noSuchDevice) fun wire => .ok (.wire wire))
  else (deviceDescriptor? name).map fun descriptor =>
    match (process.descriptors.lookup descriptor).bind host.description? with
    | some description => .ok description.resource
    | none => .error .noSuchFile

/-- Opens a path.  Writing makes the file if need be and, unless it appends, empties it. -/
def openPath (host : Host) (process : Process) (path : String) (direction : Shell.Direction) :
    Except Errno (Nat × Host) := do
  let files := host.filesFor process
  let writes := direction != .input
  if writes && files.wouldBeDirectory path then throw .isADirectory
  let name ← files.resolve path
  match host.deviceResource? process name with
  | some (.ok resource) => return host.freshDescription resource 0 false
  | some (.error errno) => throw errno
  | none =>
  match files.node? name with
  | some .nullDevice => return host.freshDescription .null 0 false
  | some .directory =>
    if writes then .error .isADirectory
    return host.freshDescription (.directory name) 0 false
  | some (.socket _) => .error .noSuchDevice
  | some (.program _) =>
    if writes then .error .textFileBusy
    return host.freshDescription .null 0 false
  | some (.file content executable) =>
    let host := if direction = .output || direction = .replace then
        { host with files := host.files.put name (.file [] executable) }
      else host
    let position := if direction = .append then content.length else 0
    return host.freshDescription (.file name) position (direction = .append)
  | none =>
    if direction = .input then .error .noSuchFile
    match files.node? name.dropLast with
    | some .directory =>
      let host := { host with files := host.files.put name (.file [] false) }
      return host.freshDescription (.file name) 0 (direction = .append)
    | some _ => .error .notADirectory
    | none => .error .noSuchFile

/-- Bytes laid over a content from a position on. -/
def overwrite (content : Bytes) (position : Nat) (bytes : Bytes) : Bytes :=
  let front := content.take position
  front ++ List.replicate (position - front.length) 0 ++ bytes
    ++ content.drop (position + bytes.length)

/-- Writes to what a description is connected to. -/
def writeTo (host : Host) (number : Nat) (bytes : Bytes) : Except Errno Host :=
  match host.description? number with
  | none => .error .badDescriptor
  | some description =>
    match description.resource with
    | .null => .ok host
    | .directory _ | .pipeOut _ => .error .badDescriptor
    | .file name =>
      match host.files.node? name with
      | some (.file content executable) =>
        let position := if description.appends then content.length else description.position
        let content := overwrite content position bytes
        let host := { host with files := host.files.put name (.file content executable) }
        .ok (host.setDescription number { description with position := position + bytes.length })
      | _ => .ok host
    | .wire wire =>
      match host.wire? wire with
      | none => .error .inputOutput
      | some state =>
        if state.hungUp then .error .inputOutput
        else
          let (bytes, modes) :=
            if state.channel.isTerminal then state.modes.write bytes else (bytes, state.modes)
          .ok (host.setWire wire { state with pending := state.pending ++ bytes, modes })
    | .pipeIn pipe =>
      if host.isHeld (.pipeOut pipe) then
        .ok { host with pipes := put host.pipes pipe ((host.pipes.lookup pipe).getD [] ++ bytes) }
      else .error .brokenPipe

def write (host : Host) (process descriptor : Nat) (bytes : Bytes) : Except Errno Host :=
  match host.descriptorOf process descriptor with
  | none => .error .badDescriptor
  | some number => if bytes.isEmpty then .ok host else host.writeTo number bytes

inductive Input
  | blocked
  | ended
  | data (bytes : Bytes)
  | failed (errno : Errno)
  deriving DecidableEq, Repr

/-- Reads at most so many bytes from a descriptor of a process. -/
def readFrom (host : Host) (process descriptor count : Nat) : Input × Host :=
  match host.descriptorOf process descriptor with
  | none => (.failed .badDescriptor, host)
  | some number =>
    match host.description? number with
    | none => (.failed .badDescriptor, host)
    | some description =>
      match description.resource with
      | .null => (.ended, host)
      | .directory _ => (.failed .isADirectory, host)
      | .pipeIn _ => (.failed .badDescriptor, host)
      | .file name =>
        match host.files.node? name with
        | some (.file content _) =>
          let bytes := (content.drop description.position).take count
          if bytes.isEmpty then (.ended, host)
          else
            (.data bytes,
              host.setDescription number
                { description with position := description.position + bytes.length })
        | _ => (.ended, host)
      | .wire wire =>
        match host.wire? wire with
        | some state => (if state.hungUp then .ended else .blocked, host)
        | none => (.ended, host)
      | .pipeOut pipe =>
        match (host.pipes.lookup pipe).getD [] with
        | [] => (if host.isHeld (.pipeIn pipe) then .blocked else .ended, host)
        | content =>
          (.data (content.take count),
            { host with pipes := put host.pipes pipe (content.drop count) })

def isTerminal (host : Host) (process descriptor : Nat) : Bool :=
  match (host.descriptorOf process descriptor).bind host.description? with
  | some ⟨.wire wire, _, _⟩ =>
    match host.wire? wire with
    | some state => state.channel.isTerminal && !state.hungUp
    | none => false
  | _ => false

end Supervision.Host
