/-!
# Paths

Paths are texts with slashes.  A path is absolute if it starts with one; joining puts one slash
between two paths unless there is one already, and an absolute path replaces what it is joined to.
-/

namespace Supervision.Files

def isAbsolute (path : String) : Bool := path.toList.head? == some '/'

def endsInSlash (path : String) : Bool := path.toList.getLast? == some '/'

def join (directory path : String) : String :=
  if isAbsolute path then path
  else if directory.isEmpty || endsInSlash directory then directory ++ path
  else directory ++ "/" ++ path

/-- What is between the slashes of a path. -/
def segments (path : String) : List String :=
  ((path.toList.splitOn '/').map String.ofList).filter (· != "")

/-- The parts of a path between slashes.  A slash at the end counts as a final dot. -/
def parts (path : String) : List String :=
  if endsInSlash path then segments path ++ ["."] else segments path

/-- The parts of a path apart from dots, which name the same place. -/
def names (path : String) : List String := (parts path).filter (· != ".")

/-- A path written backwards without the slashes and dots it ends in. -/
def trimEnd : List Char → List Char
  | '/' :: rest => trimEnd rest
  | '.' :: '/' :: rest => trimEnd rest
  | ['.'] => []
  | chars => chars

/-- A path written backwards without its last part and what separates it. -/
def dropPart (chars : List Char) : List Char := trimEnd ((chars.dropWhile (· != '/')).drop 1)

/-- The slash or the dot that a path starts with, and what follows it. -/
def splitStart : List Char → List Char × List Char
  | '/' :: rest => (['/'], rest)
  | ['.'] => (['.'], [])
  | '.' :: '/' :: rest => (['.'], '/' :: rest)
  | chars => ([], chars)

/-- The directory a path is in: none for the root and for the empty path, and the empty path for a
single name.  Slashes and dots at the end name nothing of their own. -/
def parent (path : String) : Option String :=
  let (start, rest) := splitStart path.toList
  match trimEnd rest.reverse with
  | [] => if start = ['.'] then some "" else none
  | body => some (String.ofList (start ++ (dropPart body).reverse))

/-- What a path ends in: a name, perhaps with slashes after it, or a place that is there already,
such as a dot or the root. -/
inductive Ending
  | name (part : String) (slash : Bool)
  | place
  deriving DecidableEq, Repr

/-- The parts of a path before its end, and its end. -/
def splitEnd (path : String) : List String × Ending :=
  match (segments path).getLast? with
  | none => ([], .place)
  | some last =>
    if last == "." || last == ".." then (segments path, .place)
    else ((segments path).dropLast, .name last (endsInSlash path))

end Supervision.Files
