import Supervision.Host.Replies

/-!
# Jobs and signals of a shell

Waiting for children that run beside the shell, listing them, sending signals to them and to other
processes, and arranging what signals do to the shell itself.
-/

namespace Supervision.Host.Builtin

open Shell (Machine)

/-- The job that a text after a percent sign names: by its number, or as the last or the last but
one. -/
def jobNamed? (machine : Machine) (text : String) : Option Nat :=
  match text.toList with
  | '%' :: rest =>
    match rest with
    | [] | ['%'] | ['+'] => machine.jobs.getLast?
    | ['-'] => machine.jobs.dropLast.getLast?
    | _ => ((String.ofList rest).toNat?).bind fun number => machine.jobs[number - 1]?
  | _ => none

/-- The children that words name; those that are not known are left out. -/
def childrenNamed (work : Working) : List String → Except String (List Nat)
  | [] => .ok []
  | word :: rest => do
    let more ← childrenNamed work rest
    if word.toList.head? == some '%' then
      match jobNamed? work.machine word with
      | some child => return child :: more
      | none => .error ("No such job: " ++ word)
    else match number? word with
    | none => .error ("Illegal number: " ++ word)
    | some child =>
      let isOwn := work.machine.jobs.contains child
        || work.machine.waited.any fun entry => entry.1 == child
      return if isOwn then child :: more else more

def waits (work : Working) (line : Nat) (arguments : List String) : Working :=
  let arguments := if arguments.head? = some "--" then arguments.tail else arguments
  if arguments.isEmpty then work.withControl (.waitingFor work.machine.jobs true 0)
  else match childrenNamed work arguments with
  | .error message => abort work line "wait" message
  | .ok children => work.withControl (.waitingFor children false 127)

def jobState (work : Working) (job : Nat) : String :=
  match endedChild? work job with
  | none =>
    if (work.host.process? job).any Process.stopped then "Stopped" else "Running"
  | some status =>
    match status.code, status.signal with
    | some code, _ => if code = 0 then "Done" else "Done(" ++ toString code ++ ")"
    | none, some signal => signalDescription signal.toNat
    | none, none => "Done"

/-- Lists the jobs, the last one first.  Those that have ended are then forgotten. -/
def listJobs (work : Working) : Working :=
  let jobs := work.machine.jobs
  let isOver (job : Nat) : Bool := (endedChild? work job).isSome
  let line (index : Nat) : String :=
    let mark := if index + 1 = jobs.length then "+" else if index + 2 = jobs.length then "-" else " "
    let text := "[" ++ toString (index + 1) ++ "] " ++ mark ++ " "
      ++ jobState work (jobs[index]?.getD 0)
    text ++ String.ofList (List.replicate (max 1 (33 - text.length)) ' ') ++ "\n"
  let text := String.join ((List.range jobs.length).reverse.map line)
  prints (forgetChildren work (jobs.filter isOver)) (Text.Utf8.encode text) 0

/-- Sends a signal to what a number names: a process, a group, or the group of the shell. -/
def sendTo (work : Working) (signal : Nat) (target : Int) : Except Errno Host :=
  let host := work.host
  if 0 < target then host.signalProcess target.toNat signal
  else if target = 0 then
    match host.process? work.number with
    | some process => host.signalGroup process.group signal
    | none => .error .noSuchProcess
  else host.signalGroup target.natAbs signal

/-- The number of what a word names as the target of a signal. -/
def target? (work : Working) (word : String) : Except String Int :=
  match word.toList with
  | '%' :: _ =>
    match jobNamed? work.machine word with
    | some job => .ok (-(job : Int))
    | none => .error ("No such job: " ++ word)
  | '-' :: rest =>
    match number? (String.ofList rest) with
    | some number => .ok (-(number : Int))
    | none => .error ("Illegal number: " ++ String.ofList rest)
  | _ =>
    match number? word with
    | some number => .ok number
    | none => .error ("Illegal number: " ++ word)

/-- What the words of the command that sends signals ask for: a list of signals, or a signal and the
words that name targets. -/
inductive Sending
  | list (words : List String)
  | signal (number : Nat) (targets : List String)

def sendingUsage : String :=
  "Usage: kill [-s sigspec | -signum | -sigspec] [pid | job]... or\nkill -l [exitstatus]"

/-- The signal that a text names, after an option that says so. -/
def signalNamed (name : String) : Except String Nat :=
  match signalNumber? name with
  | some signal => .ok signal
  | none => .error ("invalid signal number or name: " ++ name)

/-- Reads the options of the command that sends signals; `fuel` bounds their number. -/
def sendingOptions : Nat → Option Nat → List String → Except String Sending
  | 0, _, _ => .error sendingUsage
  | fuel + 1, signal, words =>
    let plain (words : List String) : Except String Sending :=
      if words.isEmpty then .error sendingUsage else .ok (.signal (signal.getD 15) words)
    match words with
    | [] => plain []
    | word :: rest =>
      match word.toList with
      | ['-', '-'] => plain rest
      | ['-', 'l'] => .ok (.list rest)
      | ['-', 's'] =>
        match rest with
        | [] => .error "No arg for -s option"
        | name :: rest => do sendingOptions fuel (some (← signalNamed name)) rest
      | '-' :: 's' :: name => do sendingOptions fuel (some (← signalNamed (String.ofList name))) rest
      | '-' :: letter :: _ => .error ("Illegal option -" ++ String.ofList [letter])
      | _ => plain words

/-- Reads the words of the command that sends signals. -/
def sendingOf (words : List String) : Except String Sending :=
  match words with
  | [] => .error sendingUsage
  | word :: rest =>
    match word.toList with
    | '-' :: name =>
      match signalNumber? (String.ofList name) with
      | some signal => if rest.isEmpty then .error sendingUsage else .ok (.signal signal rest)
      | none => sendingOptions (words.length + 1) none words
    | _ => .ok (.signal 15 words)

/-- The names of all signals, or the one given by its number or by the status of a child that it
ended. -/
def listSignals (work : Working) (line : Nat) : List String → Working
  | [] =>
    let all := (List.range lastFree).map fun number => signalName (number + 1) ++ "\n"
    prints work (Text.Utf8.encode ("0\n" ++ String.join all)) 0
  | text :: _ =>
    match number? text with
    | none => abort work line "kill" ("Illegal number: " ++ text)
    | some number =>
      let signal := if 128 < number then number - 128 else number
      if 0 < signal && signal ≤ lastFree then
        prints work (Text.Utf8.encode (signalName signal ++ "\n")) 0
      else abort work line "kill" ("invalid signal number or exit status: " ++ text)

/-- Sends a signal to each target in turn, up to one that is none. -/
def sendToAll (work : Working) (line signal status : Nat) : List String → Working
  | [] => work.complete status
  | word :: rest =>
    match target? work word with
    | .error message => abort work line "kill" message
    | .ok target =>
      match sendTo work signal target with
      | .ok host => sendToAll { work with host } line signal status rest
      | .error errno =>
        sendToAll (work.complainBy line "kill" (errno.sentence ++ "\n")) line signal 1 rest

def kills (work : Working) (line : Nat) (arguments : List String) : Working :=
  match sendingOf arguments with
  | .error message => abort work line "kill" message
  | .ok (.list words) => listSignals work line words
  | .ok (.signal signal targets) => sendToAll work line signal 0 targets

/-- Arranges what a signal does to the shell.  What was ignored when the shell began stays so. -/
def setTrap (work : Working) (signal : Nat) (action : Option String) : Working :=
  let machine := work.machine
  let known := machine.traps.any fun trap => trap.1 == signal
  let hard := match work.host.process? work.number with
    | some process => signal != 0 && process.ignored.contains signal && !known
    | none => false
  if hard then work
  else
    let others := machine.traps.filter fun trap => trap.1 != signal
    let traps := match action with
      | some text => (signal, text) :: others
      | none => others
    let machine := { machine with traps }
    let ignores := action == some ""
    let host := work.host.modify work.number fun process =>
      let ignored := process.ignored.filter (· != signal)
      { process with
        ignored := if ignores && signal != 0 then signal :: ignored else ignored
        caught := machine.caught }
    { work with host, machine }

def trapList (machine : Machine) : String :=
  let name (signal : Nat) : String := if signal = 0 then "EXIT" else signalName signal
  let sorted := machine.traps.mergeSort fun first second => decide (first.1 ≤ second.1)
  String.join (sorted.map fun (signal, action) =>
    "trap -- " ++ Shell.quoted action ++ " " ++ name signal ++ "\n")

/-- Arranges an action, or none, for each signal that is named, up to a name that is none. -/
def setTraps (work : Working) (action : Option String) : List String → Working
  | [] => work.complete 0
  | name :: rest =>
    match signalNumber? name with
    | some signal => setTraps (setTrap work signal action) action rest
    | none => ((work.say 2 (Text.Utf8.encode ("trap: " ++ name ++ ": bad trap\n"))).2).complete 1

def traps (work : Working) (line : Nat) (arguments : List String) : Working :=
  match leadingLetters [] [] arguments with
  | .error message => abort work line "trap" message
  | .ok (_, []) => prints work (Text.Utf8.encode (trapList work.machine)) 0
  | .ok (_, action :: names) =>
    if names.isEmpty || (action.toNat?).isSome then setTraps work none (action :: names)
    else setTraps work (if action == "-" then none else some action) names

end Supervision.Host.Builtin
