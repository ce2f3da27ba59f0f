import Supervision.Text.Blank

/-!
# Signals

The signals a supervised process can be sent.  A name is read without regard to the case of ASCII
letters, with or without its first three letters, and with white space around it.
-/

namespace Supervision

/-- The signals that may be configured as stop signals. -/
inductive Signal
  | interrupt
  | terminate
  | kill
  | quit
  | hangup
  | user1
  | user2
  deriving DecidableEq, Repr, Inhabited

namespace Signal

def all : List Signal := [interrupt, terminate, kill, quit, hangup, user1, user2]

/-- The name without its first three letters. -/
def shortName : Signal → String
  | interrupt => "INT"
  | terminate => "TERM"
  | kill => "KILL"
  | quit => "QUIT"
  | hangup => "HUP"
  | user1 => "USR1"
  | user2 => "USR2"

def name (signal : Signal) : String := "SIG" ++ signal.shortName

/-- The number of the signal on Linux. -/
def number : Signal → Nat
  | interrupt => 2
  | terminate => 15
  | kill => 9
  | quit => 3
  | hangup => 1
  | user1 => 10
  | user2 => 12

/-- A name without one leading `SIG`. -/
def dropLead : List Char → List Char
  | 'S' :: 'I' :: 'G' :: rest => rest
  | chars => chars

def ofText? (text : String) : Option Signal :=
  let upper := (Text.trimChars text.toList).map Char.toUpper
  all.find? fun signal => signal.shortName.toList == dropLead upper

end Signal

end Supervision
