import Supervision.Failure

/-!
# Process groups

A supervised child leads a group that has its number, and signals go to the whole group.
-/

namespace Supervision.Signal

/-- The largest number a group can have. -/
def largestGroup : UInt32 := 0x7fffffff

/-- The group that a process leads. -/
def groupLedBy (pid : UInt32) : Except Failure Nat :=
  if largestGroup < pid then .error (.signal ("pid " ++ toString pid.toNat ++ " out of range"))
  else .ok pid.toNat

end Supervision.Signal
