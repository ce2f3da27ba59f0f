import Supervision.Host.Descriptors

/-!
# Programs

Finding the program that a name stands for and what a process executes once it has it.  A name
without a slash is looked for in the directories of the search path; a script names the program
that reads it, and one that names none is read by the shell.
-/

namespace Supervision.Host

/-- What can be executed: a program of the host, or a text. -/
inductive Executable
  | program (name : String)
  | text (content : Bytes)
  deriving Repr

def executableAt (files : Files.Tree) (path : String) : Except Errno Executable :=
  match files.find path with
  | .error errno => .error errno
  | .ok (.program name) => .ok (.program name)
  | .ok (.file content true) => .ok (.text content)
  | .ok _ => .error .permissionDenied

/-- A path of a name inside a directory of the search path; the empty entry is the working
directory. -/
def searchCandidate (directory name : String) : String :=
  if directory.isEmpty then name else directory ++ "/" ++ name

/-- The first executable among candidates, or the reason why there is none. -/
def firstExecutable (files : Files.Tree) : List String → Errno →
    Except Errno (String × Executable)
  | [], fault => .error fault
  | path :: rest, fault =>
    match executableAt files path with
    | .ok found => .ok (path, found)
    | .error errno =>
      if errno = .permissionDenied then firstExecutable files rest .permissionDenied
      else if errno = .noSuchFile || errno = .notADirectory then firstExecutable files rest fault
      else .error errno

/-- The executable that a name stands for, with its path. -/
def findExecutable (files : Files.Tree) (search : Option String) (name : String) :
    Except Errno (String × Executable) :=
  if name.isEmpty then .error .noSuchFile
  else if name.toList.contains '/' then
    (executableAt files name).map fun found => (name, found)
  else
    let directories := (search.getD "/bin:/usr/bin").splitOn ":"
    firstExecutable files (directories.map fun directory => searchCandidate directory name)
      .noSuchFile

/-- How much of a script is looked at to find the program that reads it. -/
def headSize : Nat := 256

def isSpacing (byte : UInt8) : Bool := byte == 0x20 || byte == 0x09

/-- The program that a script names and the word that may follow it, which holds all that is left of
the line.  A line that is not ended within the part that is looked at ends at the first zero, and
then the name may even be empty. -/
def interpreter? (content : Bytes) : Option (String × List String) :=
  match content with
  | 0x23 :: 0x21 :: _ =>
    let body := (content.take headSize).drop 2
    let known := body.takeWhile (· != 0)
    let isEnded := known.contains 0x0a
    let line := if isEnded then
        ((known.takeWhile (· != 0x0a)).reverse.dropWhile isSpacing).reverse
      else known
    let named := line.dropWhile isSpacing
    let program := named.takeWhile fun byte => !isSpacing byte
    let after := named.drop program.length
    let isWhole := known.length + 2 < headSize
    if isEnded && program.isEmpty then none
    else if !isEnded && !isWhole && after.isEmpty then none
    else
      let word := after.dropWhile isSpacing
      some (Text.Utf8.decodeLenient program,
        if after.isEmpty then [] else [Text.Utf8.decodeLenient word])
  | _ => none

/-- The variables of a new shell. -/
def shellVariables (environment : Environment) (name : String) (operands : List String)
    (letters : List Char) (number parent : Nat) : Shell.Variables :=
  let blank : Shell.Variables :=
    { name
      parameters := .ofWords operands
      values := .ofList [("OPTIND", "1"), ("PS1", "# "), ("PS2", "> "), ("PS4", "+ ")]
      exported := []
      readOnly := []
      status := 0
      shell := number
      parent
      lastBackground := none
      letters }
  let scope := blank.ofEnvironment environment
  { scope with values := scope.values.erase "IFS" }

/-- The script in a file, without characters zero.  A directory reads as an empty one. -/
def scriptAt? (files : Files.Tree) (path : String) : Option String :=
  match files.read path with
  | .ok content => some (Text.Utf8.decodeLenient (content.filter (· != 0)))
  | .error cause => if cause = .system .isADirectory then some "" else none

/-- What a process executes when it runs the shell with some words. -/
def shellImage (files : Files.Tree) (environment : Environment) (words : List String)
    (number parent : Nat) : Image :=
  let called := words.head?.getD "sh"
  let complaint (text : String) : Image := .complaining called ("0: " ++ text) 2
  let machine (letters : List Char) (name script : String) (operands : List String)
      (mayReplace : Bool) : Shell.Machine :=
    .start (shellVariables environment name operands letters number parent) script mayReplace
  match Shell.readSettings true (words.length + 1) ⟨[], false, [], none⟩ words.tail with
  | .error message => complaint message
  | .ok read =>
    match read.givesText, read.operands.getD [] with
    | true, script :: name :: operands => .shell (machine read.letters name script operands true)
    | true, [script] => .shell (machine read.letters called script [] true)
    | true, [] => complaint "-c requires an argument"
    | false, [] => .shell (machine ('s' :: read.letters) called "" [] false).listen
    | false, path :: operands =>
      if read.letters.contains 's' then
        .shell (machine read.letters called "" (path :: operands) false).listen
      else match scriptAt? files path with
      | some script => .shell (machine read.letters path script operands false)
      | none => complaint ("cannot open " ++ path ++ ": No such file")

/-- The text of a script, with the shell that reads it because the script names no other. -/
def readByShell (files : Files.Tree) (environment : Environment) (number parent : Nat)
    (path : String) (words : List String) : Image :=
  shellImage files environment ("/bin/sh" :: path :: words.tail) number parent

/-- What a process executes after it has been given an executable with words, unless the executable
cannot be run as it is; `depth` bounds how many scripts may name one another. -/
def imageOf? (files : Files.Tree) (environment : Environment) (number parent : Nat) :
    Nat → String → Executable → List String → Except Errno Image
  | _, _, .program name, words =>
    if shellNames.contains name then .ok (shellImage files environment words number parent)
    else .ok (.utility name (words.head?.getD name) words.tail)
  | depth, path, .text content, words =>
    match interpreter? content, depth with
    | none, _ => .error .noExecFormat
    | some _, 0 => .error .tooManyLinks
    | some (program, word), depth + 1 =>
      if program.isEmpty then .error .permissionDenied
      else match executableAt files program with
      | .error errno => .error errno
      | .ok found =>
        imageOf? files environment number parent depth program found
          (program :: word ++ path :: words.tail)

/-- What a process executes after it has been given an executable with words.  What cannot be run
as it is, is read by the shell. -/
def imageOf (files : Files.Tree) (environment : Environment) (number parent : Nat)
    (path : String) (found : Executable) (words : List String) : Except Errno Image :=
  match imageOf? files environment number parent 5 path found words with
  | .error errno =>
    if errno = .noExecFormat then .ok (readByShell files environment number parent path words)
    else .error errno
  | image => image

def replaceImage (host : Host) (process : Process) (words : List String)
    (environment : Environment) (search : Option String) : Except Errno Image := do
  let files := host.filesFor process
  let name := words.head?.getD ""
  let (path, found) ← findExecutable files search name
  imageOf files environment process.number process.parent path found words

/-- How long it takes until a process that was given a program begins. -/
def startTime : Nat := 1000000

def openWire (host : Host) (kind : Output.ChannelKind) : Nat × Host :=
  let wire : Wire :=
    { channel := .open kind
      pending := []
      modes := .fresh
      hungUp := false
      foreground := none }
  (host.nextNumber,
    { host with wires := (host.nextNumber, wire) :: host.wires, nextNumber := host.nextNumber + 1 })

/-- Lets go of the supervisor's copy of the child's end. -/
def releaseWire (host : Host) (number : Nat) : Host :=
  match host.wire? number with
  | some wire => host.setWire number { wire with channel := wire.channel.release }
  | none => host

/-- Texts that no system call can be given. -/
def holdsNul (line : CommandLine) : Bool :=
  (line.program :: line.directory.toList ++ line.arguments
    ++ line.environment.entries.flatMap fun entry => [entry.1, entry.2]).any Files.Tree.hasNul

/-- Starts a program on a wire.  As the leader of a session it has a group of its own and, on a
terminal, the terminal. -/
def launch (host : Host) (line : CommandLine) (wire : Nat) (leads : Bool) :
    Except IoCause (Nat × Host) := do
  if holdsNul line then .error (.described "nul byte found in provided data")
  let directory ← match line.directory with
    | none => .ok host.files.working
    | some path =>
      match host.files.resolve path with
      | .error errno => .error (.system errno)
      | .ok name =>
        match host.files.node? name with
        | some .directory => .ok name
        | some _ => .error (.system .notADirectory)
        | none => .error (.system .noSuchFile)
  let environment := host.environment.overlay line.environment
  let number := host.nextProcess
  let process : Process :=
    { number
      parent := supervisorNumber
      group := if leads then number else supervisorNumber
      terminal := none
      directory
      environment
      descriptors := []
      ignored := []
      caught := []
      pending := []
      stopped := false
      image := .finishing 0
      ready := host.clock + startTime
      ended := none }
  match host.replaceImage process (line.program :: line.arguments) environment
      (environment.find? "PATH") with
  | .error errno => .error (.system errno)
  | .ok image =>
    let kind := (host.wire? wire).map fun wire => wire.channel.kind
    let onTerminal := kind == some .pty
    let (output, host) := host.freshDescription (.wire wire) 0 false
    let (null, host) := host.freshDescription .null 0 false
    let input := if onTerminal then output else null
    let process :=
      { process with
        image
        terminal := if leads && onTerminal then some wire else none
        descriptors := [(0, input), (1, output), (2, output)] }
    let host :=
      { host with processes := host.processes ++ [process], nextProcess := number + 1 }
    let host := match host.wire? wire with
      | some state =>
        if leads && onTerminal then host.setWire wire { state with foreground := some number }
        else host
      | none => host
    return (number, host)

/-- The status of a child of the supervisor that has ended, which is then forgotten. -/
def reap? (host : Host) (number : Nat) : Option (ExitStatus × Host) := do
  let process ← host.process? number
  let status ← process.ended
  some
    (status,
      { host with processes := host.processes.filter fun process => process.number != number })

/-- Does a process hold a wire open, or the supervisor itself? -/
def wireIsHeld (host : Host) (number : Nat) (wire : Wire) : Bool :=
  !wire.channel.released || (!wire.hungUp && host.isHeld (.wire number))

end Supervision.Host
