import Supervision.Errno
import Supervision.Json.Fault

/-!
# Failures

The reasons for which supervision or one of its parts can fail, with the message of each.  Some are
faults of the configuration, found before anything is started; the others arise while running.
-/

namespace Supervision

/-- Why input or output failed: the system said so, or the program did. -/
inductive IoCause
  | system (errno : Errno)
  | described (text : String)
  deriving DecidableEq, Repr

def IoCause.message : IoCause → String
  | .system errno => errno.report
  | .described text => text

inductive Failure
  | io (cause : IoCause)
  | invalidCommand (name reason : String)
  | invalidProcessName (name : String)
  | spawnFailed (detail : String)
  | channel (detail : String)
  | config (detail : String)
  | restartsExhausted (name : String)
  | signal (detail : String)
  | supervisor (detail : String)
  | system (errno : Errno)
  | json (fault : Json.Fault)
  | other (detail : String)
  deriving DecidableEq, Repr

namespace Failure

def message : Failure → String
  | io cause => "IO error: " ++ cause.message
  | invalidCommand name reason => "Invalid command for " ++ name ++ ": " ++ reason
  | invalidProcessName name => "Invalid process name: " ++ Text.quoted name
  | spawnFailed detail => "Process spawn failed: " ++ detail
  | channel detail => "Output channel allocation failed: " ++ detail
  | config detail => "Config error: " ++ detail
  | restartsExhausted name => "process " ++ name ++ " failed"
  | signal detail => "Signal handling error: " ++ detail
  | supervisor detail => "Supervisor error: " ++ detail
  | system errno => "Unix error: " ++ errno.label
  | json fault => "JSON error: " ++ fault.message
  | other detail => "Other error: " ++ detail

/-- Faults of the configuration end a process at once instead of counting as one more attempt. -/
def isConfiguration : Failure → Bool
  | invalidCommand .. | invalidProcessName _ | channel _ | config _ => true
  | _ => false

def ofErrno (errno : Errno) : Failure := io (.system errno)

/-- Input or output failed for a reason of the program's own. -/
def described (text : String) : Failure := io (.described text)

end Failure

end Supervision
