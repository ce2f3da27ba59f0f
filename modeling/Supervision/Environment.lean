/-!
# Environments

A finite map from names to values, kept in the order of the names, with one entry for each.
Inserting a name again replaces its value.
-/

namespace Supervision

/-- Names with their values, sorted by name. -/
structure Environment where
  entries : List (String × String)
  deriving DecidableEq, Repr, Inhabited

namespace Environment

def empty : Environment := ⟨[]⟩

def insertEntry (name value : String) : List (String × String) → List (String × String)
  | [] => [(name, value)]
  | entry :: rest =>
    if name = entry.1 then (name, value) :: rest
    else if name < entry.1 then (name, value) :: entry :: rest
    else entry :: insertEntry name value rest

def insert (env : Environment) (name value : String) : Environment :=
  ⟨insertEntry name value env.entries⟩

/-- Sets every pair in turn, so that of two values for one name the later stays. -/
def extend (env : Environment) (pairs : List (String × String)) : Environment :=
  pairs.foldl (fun env pair => env.insert pair.1 pair.2) env

def ofList (pairs : List (String × String)) : Environment := empty.extend pairs

def find? (env : Environment) (name : String) : Option String :=
  (env.entries.find? fun entry => entry.1 == name).map (·.2)

/-- The value that the system finds under a name: an entry is the text of a name, an equals sign and
a value, and whatever stands before an equals sign can be asked for. -/
def lookup (env : Environment) (name : String) : Option String :=
  let front := (name ++ "=").toList
  if name.isEmpty then none
  else env.entries.findSome? fun entry =>
    let text := (entry.1 ++ "=" ++ entry.2).toList
    if front.isPrefixOf text then some (String.ofList (text.drop front.length)) else none

def erase (env : Environment) (name : String) : Environment :=
  ⟨env.entries.filter fun entry => entry.1 != name⟩

/-- The entries of one environment laid over those of another. -/
def overlay (env other : Environment) : Environment := env.extend other.entries

def mapValues (env : Environment) (change : String → String) : Environment :=
  ⟨env.entries.map fun entry => (entry.1, change entry.2)⟩

theorem find?_insert (env : Environment) (name value key : String) :
    (env.insert name value).find? key = if name = key then some value else env.find? key := by
  obtain ⟨entries⟩ := env
  simp only [insert, find?]
  induction entries with
  | nil => by_cases h : name = key <;> simp [insertEntry, h]
  | cons entry rest ih =>
    obtain ⟨first, content⟩ := entry
    simp only [insertEntry]
    split
    · next h => subst h; by_cases hk : name = key <;> simp [hk]
    · split
      · by_cases hk : name = key <;> simp [List.find?_cons, hk]
      · by_cases hf : first = key
        · subst hf
          have : name ≠ first := by assumption
          simp [this]
        · simp only [List.find?_cons, beq_eq_false_iff_ne.2 hf]
          exact ih

end Environment

end Supervision
