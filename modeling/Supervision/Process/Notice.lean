import Supervision.ExitStatus
import Supervision.Failure
import Supervision.Output.Multiplexer
import Supervision.Output.Reader
import Supervision.Signal
import Supervision.Span

/-!
# Lifecycle notices

Besides the output of its children, a supervised process has lines that tell what becomes of it:
that it runs, is told to stop, has exited, waits for a restart or is given up.
-/

namespace Supervision

/-- A line about the life of one process. -/
inductive Notice
  | running
  | stopping (signal : Signal)
  | killing
  | signalFailed (failure : Failure)
  | exited (status : ExitStatus)
  | waitFailed (cause : IoCause)
  | failed (failure : Failure)
  | restarting (attempt : UInt32) (delay : Span)
  | done
  | exhausted
  deriving DecidableEq, Repr

namespace Notice

def text : Notice → String
  | running => "Running..."
  | stopping signal => "Stopping " ++ signal.name ++ "..."
  | killing => "Killing..."
  | signalFailed failure | failed failure => failure.message
  | exited status => "Process exited " ++ status.text
  | waitFailed cause => cause.message
  | restarting attempt delay =>
    "restarting in " ++ delay.text ++ " [attempt " ++ toString attempt.toNat ++ "]"
  | done => "done"
  | exhausted => "restart attempts exhausted, crashing"

/-- Writes a notice.  An exit without success shows as an error; what a restart policy decides is
written like a line of output. -/
def write (notice : Notice) (output : Output.Multiplexer) (source : Output.Source) :
    Output.Multiplexer :=
  match notice with
  | running | stopping _ | killing => output.writeStatus source notice.text
  | exited status =>
    if status.success then output.writeStatus source notice.text
    else output.writeError source notice.text
  | signalFailed _ | waitFailed _ | failed _ => output.writeError source notice.text
  | restarting .. | done | exhausted => output.writeLine source (Text.Utf8.encode notice.text)

end Notice

/-- Writes what a reader has copied. -/
def Output.Copied.write (copied : Copied) (output : Multiplexer) (source : Source) : Multiplexer :=
  match copied with
  | line content => output.writeLine source content
  | error message => output.writeError source message

end Supervision
