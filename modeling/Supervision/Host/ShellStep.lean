import Supervision.Host.Builtins

/-!
# Steps of a shell

One step of the machine of a shell: it reads a command line, begins a command, goes on after one, or
looks whether what it waits for has happened.  A step that has to wait is not taken.
-/

namespace Supervision.Host

open Shell (Machine Command Control Frame Word Redirection)

/-- Variables with the values of assignments, in turn. -/
def assignAll (work : Working) : List (String × Word) → Except String (List (String × String) × Working)
  | [] => .ok ([], work)
  | (name, word) :: rest => do
    let (value, work) ← work.expand (Shell.expandAssigned word)
    let scope ← work.machine.scope.assign name value
    let (more, work) ← assignAll (work.withVariables scope) rest
    return ((name, value) :: more, work)

/-- The values of assignments, with the variables of the shell left as they are. -/
def assignedValues (work : Working) (assignments : List (String × Word)) :
    Except String (List (String × String)) :=
  (assignAll work assignments).map (·.1)

/-- Starts a program, in a child or, if there is nothing left to do, in the place of the shell. -/
def startProgram (work : Working) (assignments : List (String × Word)) (words : List String)
    (redirections : List Redirection) (line : Nat) : Working :=
  let prepared := do
    let values ← assignedValues work assignments
    return (values, ← expandTargets work redirections)
  match prepared with
  | .error message => work.abort line message
  | .ok (values, targets, work) =>
    let environment := work.machine.scope.environment.extend values
    if mayGiveWay work then
      match redirectAll work work.number targets with
      | .error message => (work.complain line message).withControl (.leave 2)
      | .ok work => work.withControl (.replace words environment line false)
    else
      let child :=
        { work.machine.child .nothing with control := .replace words environment line false }
      let (number, work) := work.fork child
      match redirectAll work number targets with
      | .ok work => work.withControl (.awaiting [number] number 0)
      | .error message =>
        let work := work.complain line message
        let host := work.host.finish number (.exited 2)
        ({ work with host }).withControl (.awaiting [number] number 0)

/-- Variables with the values of assignments that programs inherit, and what they were before. -/
def assignForNow (work : Working) (assignments : List (String × Word)) :
    Except String (List Shell.Former × Working) := do
  let names := assignments.map (·.1)
  let formers := names.map (Shell.Former.of work.machine.scope)
  let (_, work) ← assignAll work assignments
  let scope := work.machine.scope
  return (formers, work.withVariables { scope with exported := names ++ scope.exported })

def callFunction (work : Working) (assignments : List (String × Word)) (body : Command)
    (arguments : List String) (redirections : List Redirection) (line : Nat) : Working :=
  let prepared := do
    let (targets, work) ← expandTargets work redirections
    return (targets, ← assignForNow work assignments)
  match prepared with
  | .error message => work.abort line message
  | .ok (targets, formers, work) =>
    let saved := savedDescriptors work redirections
    match redirectAll work work.number targets with
    | .error message => ((restoreFormers work formers).complain line message).complete 2
    | .ok work =>
      let scope := work.machine.scope
      let stack := .called scope.parameters formers :: .restore saved :: work.machine.stack
      { work with
        machine := { work.machine with
          scope := scope.setPositional arguments
          stack
          control := .run body } }

/-- Carries out a command of the shell's own.  Unless it is `exec`, its redirections last only as
long as it does.  A fault of a special command ends the shell, if it is not called as a plain one. -/
def runBuiltin (work : Working) (assignments : List (String × Word)) (name : String)
    (arguments : List String) (redirections : List Redirection) (line : Nat) (plain : Bool) :
    Working :=
  let special := Shell.isSpecialCommand name && !plain
  let assigned (work : Working) : Except String Working :=
    if special || assignments.isEmpty then (assignAll work assignments).map (·.2)
    else (assignForNow work assignments).map fun (formers, work) =>
      { work with machine := { work.machine with stack := .assigned formers :: work.machine.stack } }
  let prepared := do
    let (targets, work) ← expandTargets work redirections
    return (targets, ← assigned work)
  match prepared with
  | .error message => work.abort line message
  | .ok (targets, work) =>
    let saved := savedDescriptors work redirections
    match redirectAll work work.number targets with
    | .error message =>
      let work := restoreDescriptors work saved
      if special then work.abort line message
      else (work.complain line message).complete 2
    | .ok work =>
      match Builtin.run? work line name arguments with
      | none => work.complete 127
      | some work =>
        if work.machine.control matches .failing then
          if special then work else (restoreDescriptors work saved).complete 2
        else if name == "exec" || redirections.isEmpty then work
        else match work.machine.control with
          | .done _ => restoreDescriptors work saved
          | .nextLine =>
            match work.machine.stack with
            | frame :: rest =>
              { work with
                machine := { work.machine with stack := frame :: .restore saved :: rest } }
            | [] => work
          | .leave _ => work
          | _ =>
            { work with
              machine := { work.machine with stack := .restore saved :: work.machine.stack } }

/-- What a command is shown with: the value of a variable, expanded like a document. -/
def traceMark (work : Working) : String :=
  let text := (work.machine.scope.values.find? "PS4").getD ""
  match (Shell.Scanner.documentPieces text).run default with
  | .error .. => text
  | .ok word _ =>
    match work.expand (Shell.expandText word) with
    | .ok (mark, _) => mark
    | .error _ => text

def showCommand (work : Working) (values : List (String × String)) (words : List String) :
    Working :=
  if work.machine.hasOption 'x' then
    let texts := values.map (fun (name, value) => name ++ "=" ++ value) ++ words
    (work.say 2 (Text.Utf8.encode (traceMark work ++ " ".intercalate texts ++ "\n"))).2
  else work

/-- The words after those that call a command as a plain one; none if they only ask about it. -/
def plainWords? : List String → Option (List String)
  | [] => none
  | word :: rest =>
    match word.toList with
    | ['-', '-'] => if rest.isEmpty then none else some rest
    | '-' :: letter :: letters =>
      if (letter :: letters).all (· == 'p') then plainWords? rest else none
    | _ => some (word :: rest)

/-- The words of a command that is called as a plain one, however often that is said. -/
def calledPlainly (words : List String) : Nat → Option (List String)
  | 0 => none
  | fuel + 1 =>
    match words with
    | "command" :: rest =>
      (plainWords? rest).bind fun words => (calledPlainly words fuel).or (some words)
    | _ => none

/-- Begins a simple command whose substitutions have all been run. -/
def runSimple (work : Working) (assignments : List (String × Word)) (words : List Word)
    (redirections : List Redirection) (line : Nat) : Working :=
  let captured := work.machine.substituted
  let work := { work with machine := { work.machine with line, substituted := none } }
  match work.expand (Shell.expandWords work.files words) with
  | .error message => work.abort line message
  | .ok ([], work) =>
    match assignAll work assignments with
    | .error message => work.abort line message
    | .ok (values, work) =>
      let work := if values.isEmpty then work else showCommand work values []
      let saved := savedDescriptors work redirections
      match expandTargets work redirections with
      | .error message => work.abort line message
      | .ok (targets, work) =>
      match redirectAll work work.number targets with
      | .error message => (work.complain line message).complete 2
      | .ok work => (restoreDescriptors work saved).complete (captured.getD 0)
  | .ok (name :: arguments, work) =>
    let values := match assignedValues work assignments with
      | .ok values => values
      | .error _ => []
    let work := showCommand work values (name :: arguments)
    let plainly := calledPlainly (name :: arguments) (arguments.length + 2)
    let words := plainly.getD (name :: arguments)
    let (name, arguments) := (words.head?.getD "", words.tail)
    match if plainly.isSome then none else work.machine.functions.lookup name with
    | some body => callFunction work assignments body arguments redirections line
    | none =>
      if Builtin.names.contains name then
        runBuiltin work assignments name arguments redirections line plainly.isSome
      else startProgram work assignments words redirections line

/-- Starts the stages of a pipeline, each reading what the one before it writes. -/
def startStages (work : Working) : List Command → Option Nat → List Nat → List Nat × Working
  | [], _, started => (started, work)
  | stage :: rest, input, started =>
    let last := rest.isEmpty
    let (out, «in», host) := work.host.makePipe
    let work := { work with host := if last then work.host else host }
    let (number, work) := work.fork (work.machine.child stage)
    let host := work.host
    let host := match input with
      | some description => host.connect number 0 (some description)
      | none => host
    let host := if last then host else host.connect number 1 (some «in»)
    startStages { work with host } rest (if last then none else some out) (started ++ [number])

/-- Starts a child that is not waited for. -/
def startBackground (work : Working) (body : Command) : Working :=
  let child := { work.machine.child body with control := .detach body }
  let (number, work) := work.fork child
  let scope := { work.machine.scope with lastBackground := some number }
  let jobs := work.machine.jobs ++ [number]
  ({ work with machine := { work.machine with jobs, scope } }).withControl (.done 0)

/-- Begins what a child that is not waited for does.  It has no input of its own, and signals from
users pass it by. -/
def detach (work : Working) (body : Command) : Working :=
  let (null, host) := work.host.freshDescription .null 0 false
  let host := (host.connect work.number 0 (some null)).modify work.number fun process =>
    { process with ignored := interruptNumber :: quitNumber :: process.ignored }
  ({ work with host }).withControl (.run body)

/-- The body of the first clause that a text matches. -/
def chooseClause (work : Working) (text : String) :
    List (List Word × Command) → Except String (Command × Working)
  | [] => .ok (.nothing, work)
  | (patterns, body) :: rest => do
    let (glyphs, work) ← work.expand (patterns.mapM Shell.expandGlyphs)
    if glyphs.any fun pattern => Shell.matchesGlyphs pattern text then return (body, work)
    chooseClause work text rest

/-- Runs the body of a loop for the first of some words. -/
def nextWord (work : Working) (name : String) (words : List String) (body : Command)
    (status : Nat) : Working :=
  match words with
  | [] => work.withControl (.done status)
  | word :: words =>
    match work.machine.scope.assign name word with
    | .ok scope => (work.withVariables scope).push (.eachWord name words body) body
    | .error message => work.abort work.machine.line message

def runCommand (work : Working) (command : Command) : Working :=
  if work.machine.hasOption 'n' then work.withControl (.done 0)
  else match pendingSubstitution? work.machine.scope command with
  | some script => startCapture work script command
  | none =>
    match command with
    | .nothing => work.withControl (.done 0)
    | .simple assignments words redirections line =>
      runSimple work assignments words redirections line
    | .pipeline stages =>
      let (children, work) := startStages work stages none []
      work.withControl (.awaiting children ((children.getLast?).getD 0) 0)
    | .negated body => work.push .negate body
    | .sequence first second => work.push (.next second) first
    | .andThen first second => work.push (.andThen second) first
    | .orElse first second => work.push (.orElse second) first
    | .background body => startBackground work body
    | .subshell body =>
      let (number, work) := work.fork (work.machine.child body)
      work.withControl (.awaiting [number] number 0)
    | .redirected body redirections line =>
      let saved := savedDescriptors work redirections
      match expandTargets work redirections with
      | .error message => work.abort line message
      | .ok (targets, work) =>
      match redirectAll work work.number targets with
      | .ok work => work.push (.restore saved) body
      | .error message =>
        ((restoreDescriptors work saved).complain line message).complete 2
    | .conditional test yes no => work.push (.branch yes no) test
    | .repeated untilTrue test body => work.push (.tested untilTrue test body 0) test
    | .each name none body => nextWord work name work.machine.scope.positional body 0
    | .each name (some words) body =>
      match work.expand (Shell.expandWords work.files words) with
      | .error message => work.abort work.machine.line message
      | .ok (fields, work) => nextWord work name fields body 0
    | .choice subject clauses =>
      match work.expand (Shell.expandText subject) with
      | .error message => work.abort work.machine.line message
      | .ok (text, work) =>
        match chooseClause work text clauses with
        | .error message => work.abort work.machine.line message
        | .ok (body, work) => work.withControl (.run body)
    | .define name body =>
      { work with
        machine := { work.machine with
          functions := (name, body) :: work.machine.functions.filter fun entry => entry.1 != name
          control := .done 0 } }

def afterCommand (work : Working) (status : Nat) : Working :=
  let work := noteEnded (work.withVariables { work.machine.scope with status }) endTime
  match work.machine.stack with
  | [] => work.withControl (.leave status)
  | frame :: rest =>
    let work := { work with machine := { work.machine with stack := rest } }
    match frame with
    | .script => work.withControl .nextLine
    | .evaluated reader _ | .trapped reader _ =>
      { work with machine := { work.machine with reader } }
    | .next second => work.withControl (.run second)
    | .andThen second => work.withControl (if status = 0 then .run second else .done status)
    | .orElse second => work.withControl (if status = 0 then .done status else .run second)
    | .negate => work.withControl (.done (if status = 0 then 1 else 0))
    | .branch yes no => work.withControl (.run (if status = 0 then yes else no))
    | .tested untilTrue test body last =>
      if (status == 0) != untilTrue then work.push (.looped untilTrue test body) body
      else work.withControl (.done last)
    | .looped untilTrue test body => work.push (.tested untilTrue test body status) test
    | .eachWord name words body => nextWord work name words body status
    | .restore saved => (restoreDescriptors work saved).withControl (.done status)
    | .called parameters locals =>
      let work := restoreFormers work locals
      (work.withVariables { work.machine.scope with parameters }).withControl (.done status)
    | .assigned formers => (restoreFormers work formers).withControl (.done status)

/-- Turns to the action of a signal that has come, if there is one. -/
def takeTrap? (work : Working) (status : Nat) : Option Working := do
  let process ← work.host.process? work.number
  let signal ← process.pending.head?
  let host := work.host.modify work.number fun process =>
    { process with pending := process.pending.drop 1 }
  let work := { work with host }
  let machine := work.machine
  match machine.traps.find? fun trap => trap.1 == signal with
  | none => some work
  | some (_, action) =>
    some
      { work with
        machine := { machine with
          scope := { machine.scope with status }
          reader := { machine.reader with source := .ofText action.toList 1, mayReplace := false }
          control := .nextLine
          stack := .trapped machine.reader status :: machine.stack } }

/-- Reads the next command line of the script, or comes back from a text that is through. -/
def readLine (work : Working) : Working :=
  let machine := work.machine
  let before := { machine.reader.source with aliases := machine.aliases, used := [] }
  let after (source : Shell.Source) : Working :=
    { work with machine := { machine with reader := { machine.reader with source } } }
  match Shell.Scanner.commandLine.run before with
  | .ok (some command) source => (after source).push .script command
  | .ok none source =>
    match machine.stack with
    | .evaluated reader _ :: stack =>
      { work with
        machine := { machine with reader, stack, control := .done machine.scope.status } }
    | .trapped reader status :: stack =>
      { work with machine := { machine with reader, stack, control := .done status } }
    | _ => (after source).withControl (.leave machine.scope.status)
  | .error fault source => (after source).abort source.line fault.message

/-- Ends the shell, after the action for its exit. -/
def leaveShell (work : Working) (status : Nat) : Working :=
  let machine := work.machine
  let status := status % 256
  match if machine.leaving then none else machine.traps.find? fun trap => trap.1 == 0 with
  | some (_, action) =>
    { work with
      machine := { machine with
        leaving := true
        scope := { machine.scope with status }
        reader := { machine.reader with source := .ofText action.toList 1, mayReplace := false }
        control := .nextLine
        stack := [.trapped ⟨.ofText [] 1, false, none⟩ status] } }
  | none => { work with host := work.host.finish work.number (.exited status) }

/-- Gives way to a program; `asked` says that the script asked for just that. -/
def giveWay (work : Working) (words : List String) (environment : Environment) (line : Nat)
    (asked : Bool) : Host :=
  let fault (work : Working) (errno : Errno) : Host :=
    let missing := errno = .noSuchFile || errno = .notADirectory
    let reason := if missing then "not found" else errno.sentence
    let message := words.head?.getD "" ++ ": " ++ reason
    let work := if asked then work.complainBy line "exec" message else work.complain line message
    let unreachable := missing || errno = .nameTooLong || errno = .tooManyLinks
    work.host.finish work.number (.exited (if unreachable then 127 else 126))
  match work.host.process? work.number with
  | none => work.host
  | some process =>
    let search := (environment.find? "PATH").orElse fun _ =>
      work.machine.scope.values.find? "PATH"
    match work.host.replaceImage process words environment (some (search.getD "")) with
    | .error errno => fault work errno
    | .ok image =>
      work.host.modify work.number fun process =>
        { process with
          image
          environment
          caught := []
          descriptors := process.descriptors.filter fun entry => entry.1 < 10
          ready := work.host.clock + startTime }

def takeLine (work : Working) (names : List String) (raw : Bool) (bytes : Bytes) (whole : Bool) :
    Working :=
  let text := (Text.Utf8.decodeLenient (bytes.filter (· != 0))).toList
  let scope := work.machine.scope
  let fields := Shell.Reading.fields scope.separators names (Shell.Reading.unescaped raw text)
  match fields.foldlM (fun scope (name, value) => scope.assign name value) scope with
  | .ok scope => (work.withVariables scope).complete (if whole then 0 else 1)
  | .error message => (work.complainBy work.machine.line "read" message).complete 2

/-- Asks a user for the next command.  A shell that has a user is not ended by the signals that
would end other programs. -/
def askUser (work : Working) (before : String) : Working :=
  let scope := work.machine.scope
  let scope := { scope with letters := 'i' :: scope.letters.filter (· != 'i') }
  let host := work.host.modify work.number fun process =>
    { process with
      ignored := [quitNumber, terminateNumber, stopKeyNumber]
      caught := [interruptNumber]
      pending := [] }
  let mark := before ++ (scope.values.find? "PS1").getD ""
  ((({ work with host }).withVariables scope).say 2 (Text.Utf8.encode mark)).2

/-- Listens to the input until the whole script has come. -/
def listen (work : Working) (taken : Bytes) : Option Working :=
  let hasUser := work.machine.hasOption 'i'
  let interrupted := match work.host.process? work.number with
    | some process => !process.pending.isEmpty
    | none => false
  if hasUser && interrupted then some (askUser work "\n")
  else if !hasUser && [0, 1].all (work.host.isTerminal work.number) then some (askUser work "")
  else match work.host.readFrom work.number 0 8192 with
  | (.blocked, _) => none
  | (.data bytes, host) => some (({ work with host }).withControl (.listening (taken ++ bytes)))
  | (_, host) =>
    let script := Text.Utf8.decodeLenient (taken.filter (· != 0))
    let reader := { work.machine.reader with source := .ofText script.toList 1 }
    some { work with host, machine := { work.machine with reader, control := .nextLine } }

/-- One step of a shell that waits for something, if that has happened. -/
def stepWaiting (work : Working) : Option Working :=
  match work.machine.control with
  | .listening taken => listen work taken
  | .awaiting children last code =>
    (children.find? fun child => (endedChild? work child).isSome).map fun child =>
      let status := (endedChild? work child).getD (.exited 127)
      let work := forgetChildren (tellSignal work status) [child]
      let code := if child = last then statusNumber status else code
      match children.erase child with
      | [] => work.complete code
      | others => work.withControl (.awaiting others last code)
  | .capturing child descriptor output resume =>
    match work.host.readFrom work.number descriptor 65536 with
    | (.blocked, _) => none
    | (.data bytes, host) =>
      some (({ work with host }).withControl (.capturing child descriptor (output ++ bytes) resume))
    | (_, host) =>
      (endedChild? work child).map fun status =>
        let work := forgetChildren { work with host } [child]
        let work := { work with host := work.host.connect work.number descriptor none }
        let code := statusNumber status
        let work := { work with machine := { work.machine with substituted := some code } }
        work.withControl (.run (putIntoCommand work.machine.scope (capturedText output) resume))
  | .waitingFor children all last =>
    match children with
    | [] => some (work.complete (if all then 0 else last))
    | child :: rest =>
      let pending := match work.host.process? work.number with
        | some process => process.pending
        | none => []
      match pending.filter (· != childNumber), endedChild? work child with
      | signal :: _, _ => some (work.withControl (.done (128 + signal)))
      | [], none => none
      | [], some status =>
        let isNews := (work.machine.ended.lookup child).isNone
        let work := if isNews && !all then tellSignal work status else work
        let known := (work.machine.waited.lookup child).getD (statusNumber status)
        let work := forgetChildren work [child]
        let work := if isNews then noteEnded work 0 else work
        let waited := (child, known) :: work.machine.waited
        some (({ work with machine := { work.machine with waited } } : Working).withControl
          (.waitingFor rest all known))
  | .reading names raw taken =>
    match work.host.readFrom work.number 0 1 with
    | (.blocked, _) => none
    | (.data bytes, host) =>
      let work := { work with host }
      if bytes = [0x0a] && Shell.Reading.isComplete raw taken then
        some (takeLine work names raw taken.reverse true)
      else some (work.withControl (.reading names raw (bytes.reverse ++ taken)))
    | (_, host) => some (takeLine { work with host } names raw taken.reverse false)
  | _ => none

/-- One step of a shell, unless it has to wait. -/
def stepShell (host : Host) (number : Nat) (machine : Machine) : Option Host :=
  let work : Working := ⟨host, number, machine⟩
  match machine.control with
  | .nextLine => some (readLine work).commit
  | .run command => some (runCommand work command).commit
  | .detach command => some (detach work command).commit
  | .done status =>
    match takeTrap? work status with
    | some work => some work.commit
    | none => some (afterCommand work status).commit
  | .replace words environment line asked => some (giveWay work words environment line asked)
  | .leave status => some (leaveShell work status).commit
  | .failing => some (leaveShell work 2).commit
  | _ => (stepWaiting work).map Working.commit

end Supervision.Host
