import Supervision.Failure

/-!
# Output channels

The connection between a child and the supervisor for one run: a pseudo-terminal or a pipe.  Once
the supervisor has released its copy of the child's end, no more children can be put on it.
-/

namespace Supervision.Output

/-- How a child's output reaches the supervisor. -/
inductive ChannelKind
  | pty
  | pipe
  deriving DecidableEq, Repr, Inhabited

def ChannelKind.name : ChannelKind → String
  | .pty => "Pty"
  | .pipe => "Pipe"

structure Channel where
  kind : ChannelKind
  released : Bool
  deriving DecidableEq, Repr, Inhabited

/-- What a child is given for its standard input. -/
inductive ChildInput
  | terminal
  | nothing
  deriving DecidableEq, Repr

namespace Channel

def «open» (kind : ChannelKind) : Channel := ⟨kind, false⟩

def isTerminal (channel : Channel) : Bool := channel.kind == .pty

/-- The ends for a child: its output goes to the channel, and its input is the terminal or, with a
pipe, nothing at all. -/
def childInput (channel : Channel) : Except Failure ChildInput :=
  if channel.released then .error (.channel "child end already released")
  else .ok (if channel.isTerminal then .terminal else .nothing)

def release (channel : Channel) : Channel := { channel with released := true }

end Channel

end Supervision.Output
