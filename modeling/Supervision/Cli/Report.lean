import Supervision.Failure

/-!
# Reports of failures

What the program says when it cannot do what it was called for: what it was doing, and below that
the causes from the nearest to the farthest, numbered if there are several.
-/

namespace Supervision

/-- What a failure was caused by, as far as it tells. -/
def Failure.causes : Failure → List String
  | io cause => [cause.message]
  | system errno => [errno.label]
  | json fault => [fault.message]
  | _ => []

namespace Cli

/-- A failure with what caused it. -/
structure Report where
  message : String
  causes : List String
  deriving DecidableEq, Repr

namespace Report

def ofFailure (failure : Failure) : Report := ⟨failure.message, failure.causes⟩

/-- A failure that came up while something was being done. -/
def during (doing : String) (failure : Failure) : Report :=
  ⟨doing, failure.message :: failure.causes⟩

/-- A text with something before its first line and something before every other. -/
def indented (first other text : String) : String :=
  first ++ ("\n" ++ other).intercalate (text.splitOn "\n")

/-- A cause by its number among others. -/
def numberedCause (number : Nat) (cause : String) : String :=
  let digits := toString number
  indented (String.ofList (List.replicate (5 - digits.length) ' ') ++ digits ++ ": ")
    "       " cause

def causeLines (causes : List String) : List String :=
  match causes with
  | [cause] => [indented "    " "    " cause]
  | causes => causes.mapIdx numberedCause

def text (report : Report) : String :=
  "Error: " ++ report.message
    ++ (if report.causes.isEmpty then ""
      else "\n\nCaused by:\n" ++ "\n".intercalate (causeLines report.causes))
    ++ "\n"

end Report

end Cli

end Supervision
