/-!
# Exit statuses

What is known of how a process ended: an exit code, or the signal that ended it, or neither.
-/

namespace Supervision

/-- The code a process exited with and the signal that ended it, as far as they are known. -/
structure ExitStatus where
  code : Option Int
  signal : Option Int
  deriving DecidableEq, Repr

namespace ExitStatus

def exited (code : Nat) : ExitStatus := ⟨some code, none⟩

def signalled (signal : Nat) : ExitStatus := ⟨none, some signal⟩

/-- The status packed into the word that waiting for a child gives: the low seven bits hold the
signal, zero for an exit, and the next byte the code. -/
def ofWaitWord (word : Int32) : ExitStatus :=
  let low := word &&& 127
  if low == 0 then ⟨some ((word >>> 8) &&& 255).toInt, none⟩
  else if (0 : Int8) < (low + 1).toInt8 >>> 1 then ⟨none, some low.toInt⟩
  else ⟨none, none⟩

def success (status : ExitStatus) : Bool := status.code == some 0

def text (status : ExitStatus) : String :=
  match status.code, status.signal with
  | some code, _ => toString code
  | none, some signal => "by signal " ++ toString signal
  | none, none => "with unknown status"

end ExitStatus

end Supervision
