/-!
# Signal numbers

All signals of the system with their numbers, the names a shell knows them by, the words that
describe them, and what each does to a process that has made no other arrangement.  The signals from
thirty-four on are there for applications, and are named by their distance from either end.
-/

namespace Supervision.Host

/-- Number, name and description of every signal. -/
def signalTable : List (Nat × String × String) := [
  (1, "HUP", "Hangup"),
  (2, "INT", "Interrupt"),
  (3, "QUIT", "Quit"),
  (4, "ILL", "Illegal instruction"),
  (5, "TRAP", "Trace/breakpoint trap"),
  (6, "ABRT", "Aborted"),
  (7, "BUS", "Bus error"),
  (8, "FPE", "Floating point exception"),
  (9, "KILL", "Killed"),
  (10, "USR1", "User defined signal 1"),
  (11, "SEGV", "Segmentation fault"),
  (12, "USR2", "User defined signal 2"),
  (13, "PIPE", "Broken pipe"),
  (14, "ALRM", "Alarm clock"),
  (15, "TERM", "Terminated"),
  (16, "16", "Stack fault"),
  (17, "CHLD", "Child exited"),
  (18, "CONT", "Continued"),
  (19, "STOP", "Stopped (signal)"),
  (20, "TSTP", "Stopped"),
  (21, "TTIN", "Stopped (tty input)"),
  (22, "TTOU", "Stopped (tty output)"),
  (23, "URG", "Urgent I/O condition"),
  (24, "XCPU", "CPU time limit exceeded"),
  (25, "XFSZ", "File size limit exceeded"),
  (26, "VTALRM", "Virtual timer expired"),
  (27, "PROF", "Profiling timer expired"),
  (28, "WINCH", "Window changed"),
  (29, "IO", "I/O possible"),
  (30, "PWR", "Power failure"),
  (31, "SYS", "Bad system call")]

def killNumber : Nat := 9

/-- The signal that tells a process of the end of a child. -/
def childNumber : Nat := 17

def pipeNumber : Nat := 13

def continueNumber : Nat := 18

def hangupNumber : Nat := 1

def interruptNumber : Nat := 2

def quitNumber : Nat := 3

def terminateNumber : Nat := 15

/-- The signal by which a user stops a program for a while. -/
def stopKeyNumber : Nat := 20

/-- The signals for applications, and how many of them are counted from the first. -/
def firstFree : Nat := 34

def lastFree : Nat := 64

def countedUp : Nat := 15

/-- The name of a signal without the letters that all names begin with; what has no name is shown as
its number. -/
def signalName (number : Nat) : String :=
  match signalTable.find? fun entry => entry.1 == number with
  | some (_, name, _) => name
  | none =>
    if number < firstFree || lastFree < number then toString number
    else if number = firstFree then "RTMIN"
    else if number = lastFree then "RTMAX"
    else if number ≤ firstFree + countedUp then "RTMIN+" ++ toString (number - firstFree)
    else "RTMAX-" ++ toString (lastFree - number)

/-- The number of a signal given by its number or by its name in letters of either case.  Zero
stands for the exit of a shell. -/
def signalNumber? (text : String) : Option Nat :=
  match text.toNat? with
  | some number => if number ≤ lastFree then some number else none
  | none =>
    let name := text.toUpper
    if name == "EXIT" then some 0
    else (List.range (lastFree + 1)).find? fun number => 0 < number && signalName number == name

def signalDescription (number : Nat) : String :=
  match signalTable.find? fun entry => entry.1 == number with
  | some (_, _, description) => description
  | none =>
    if number < firstFree || lastFree < number then "Unknown signal " ++ toString number
    else "Real-time signal " ++ toString (number - firstFree)

/-- Signals that are passed over unless they are caught. -/
def isPassedOver (number : Nat) : Bool := [17, 18, 23, 28].contains number

/-- Signals that stop a process unless they are caught. -/
def isStop (number : Nat) : Bool := [19, 20, 21, 22].contains number

/-- Signals that a process cannot arrange anything for. -/
def isUnstoppable (number : Nat) : Bool := number == 9 || number == 19

end Supervision.Host
