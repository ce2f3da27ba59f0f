/-!
# Expansion of variables

A reference is a dollar sign, an opening brace, a name and a closing brace.  Expansion replaces
each reference, from left to right and once, by the value of its name, or by nothing if the name
has none; a reference that is not closed stays as it is.
-/

namespace Supervision.Expansion

def opening : Char := Char.ofNat 0x7b

def closing : Char := Char.ofNat 0x7d

/-- The characters before the first reference, and those after its two opening ones. -/
def beforeReference : List Char → List Char × Option (List Char)
  | [] => ([], none)
  | '$' :: next :: rest =>
    if next == opening then ([], some rest)
    else
      let (before, after) := beforeReference (next :: rest)
      ('$' :: before, after)
  | char :: rest =>
    let (before, after) := beforeReference rest
    (char :: before, after)

/-- The characters before the first closing brace, and those after it. -/
def beforeClosing : List Char → Option (List Char × List Char)
  | [] => none
  | char :: rest =>
    if char == closing then some ([], rest)
    else (beforeClosing rest).map fun (name, after) => (char :: name, after)

theorem length_beforeReference {chars after : List Char}
    (h : (beforeReference chars).2 = some after) : after.length < chars.length := by
  fun_induction beforeReference chars with
  | case1 => cases h
  | case2 next rest =>
    cases h
    exact Nat.lt_succ_of_lt (Nat.lt_succ_self _)
  | case3 next rest hne before tail heq ih =>
    rw [heq] at ih
    exact Nat.lt_succ_of_lt (ih h)
  | case4 char rest hne before tail heq ih =>
    rw [heq] at ih
    exact Nat.lt_succ_of_lt (ih h)

theorem length_beforeClosing {chars name after : List Char}
    (h : beforeClosing chars = some (name, after)) : after.length < chars.length := by
  induction chars generalizing name after with
  | nil => cases h
  | cons char rest ih =>
    rw [beforeClosing] at h
    split at h
    · cases h
      exact Nat.lt_succ_self _
    · obtain ⟨⟨name', after'⟩, hr, heq⟩ := Option.map_eq_some_iff.1 h
      cases heq
      exact Nat.lt_succ_of_lt (ih hr)

/-- Replaces every closed reference by the value that `lookup` has for its name. -/
def expandChars (lookup : String → Option String) (chars : List Char) : List Char :=
  match _hr : beforeReference chars with
  | (before, none) => before
  | (before, some after) =>
    match _hc : beforeClosing after with
    | none => before ++ '$' :: opening :: after
    | some (name, rest) =>
      before ++ ((lookup (String.ofList name)).getD "").toList ++ expandChars lookup rest
termination_by chars.length
decreasing_by
  have := @length_beforeReference chars after (by rw [_hr])
  have := length_beforeClosing _hc
  omega

def expand (lookup : String → Option String) (text : String) : String :=
  String.ofList (expandChars lookup text.toList)

end Supervision.Expansion
