import Supervision.Span

/-!
# Restarts

What follows when a supervised process exits: nothing, another start after a delay up to a limit,
or another start for ever.  A tracker counts the restarts of one process and never forgets one.
-/

namespace Supervision

/-- What follows an exit. -/
inductive RestartPolicy
  | never
  | limited (limit : UInt32) (delay : Span)
  | forever (delay : Span)
  deriving DecidableEq, Repr, Inhabited

namespace RestartPolicy

/-- A limit of zero restarts without end. -/
def ofLimit (limit : UInt32) (delay : Span) : RestartPolicy :=
  if limit = 0 then forever delay else limited limit delay

def isEnabled : RestartPolicy → Bool
  | never => false
  | _ => true

def delay : RestartPolicy → Span
  | never => .zero
  | limited _ delay | forever delay => delay

def limit? : RestartPolicy → Option UInt32
  | limited limit _ => some limit
  | _ => none

def text : RestartPolicy → String
  | never => "never"
  | limited limit delay => "up to " ++ toString limit.toNat ++ " every " ++ delay.text
  | forever delay => "forever every " ++ delay.text

end RestartPolicy

inductive RestartDecision
  | done
  | exhausted (restarts : UInt32)
  | retry (attempt : UInt32) (delay : Span)
  deriving DecidableEq, Repr

/-- The policy of one process and the restarts it has used. -/
structure RestartTracker where
  policy : RestartPolicy
  restarts : UInt32
  deriving DecidableEq, Repr

namespace RestartTracker

def start (policy : RestartPolicy) : RestartTracker := ⟨policy, 0⟩

def isExhausted (tracker : RestartTracker) : Bool :=
  match tracker.policy with
  | .limited limit _ => limit ≤ tracker.restarts
  | _ => false

/-- One more, up to the largest count there is. -/
def countUp (count : UInt32) : UInt32 := if count = 0xffffffff then count else count + 1

/-- Decides what follows an exit and counts the restart if there is to be one. -/
def next (tracker : RestartTracker) : RestartDecision × RestartTracker :=
  match tracker.policy with
  | .never => (.done, tracker)
  | policy =>
    if tracker.isExhausted then (.exhausted tracker.restarts, tracker)
    else
      let attempt := countUp tracker.restarts
      (.retry attempt policy.delay, { tracker with restarts := attempt })

end RestartTracker

end Supervision
