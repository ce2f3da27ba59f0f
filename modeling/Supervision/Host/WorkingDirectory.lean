import Supervision.Host.Replies

/-!
# The working directory of a shell

A shell goes to another directory and tells where it is.  Two dots take the part before them out of
the text of a path, whether that part is there or not, unless the path is to be followed as it is.
-/

namespace Supervision.Host.Builtin

def pathText (name : List String) : String := "/" ++ "/".intercalate name

/-- The absolute name that a path has by its text alone. -/
def textualName (files : Files.Tree) (path : String) : List String :=
  (Files.parts path).foldl
    (fun name part =>
      if part == "." then name else if part == ".." then name.dropLast else name ++ [part])
    (if Files.isAbsolute path then [] else files.working)

/-- Goes to a directory and notes the one it leaves. -/
def enterDirectory (work : Working) (line : Nat) (target : String) (follows shows : Bool) :
    Working :=
  let before := pathText work.files.working
  let followed := if follows then target else pathText (textualName work.files target)
  match work.files.resolve followed with
  | .error _ => fault work line "cd" ("can't cd to " ++ target) 2
  | .ok name =>
    if work.files.node? name != some .directory then
      fault work line "cd" ("can't cd to " ++ target) 2
    else
      let host := work.host.modify work.number fun process => { process with directory := name }
      let work := { work with host }
      let changed := do
        let scope ← work.machine.scope.assign "OLDPWD" before
        let scope ← scope.assign "PWD" (pathText name)
        return { scope with exported := "OLDPWD" :: "PWD" :: scope.exported }
      match changed with
      | .error message => abort work line "cd" message
      | .ok scope =>
        let work := work.withVariables scope
        if shows then prints work (Text.Utf8.encode (pathText name ++ "\n")) 0
        else work.complete 0

def changeDirectory (work : Working) (line : Nat) (arguments : List String) : Working :=
  match leadingLetters ['L', 'P'] [] arguments with
  | .error message => abort work line "cd" message
  | .ok (letters, operands) =>
    let values := work.machine.scope.values
    let goesBack := operands.head? = some "-"
    let target :=
      if goesBack then (values.find? "OLDPWD").getD ""
      else operands.head?.getD ((values.find? "HOME").getD "")
    let follows := letters.getLast? = some 'P'
    enterDirectory work line (if target.isEmpty then "." else target) follows goesBack

def printDirectory (work : Working) (line : Nat) (arguments : List String) : Working :=
  match leadingLetters ['L', 'P'] [] arguments with
  | .error message => abort work line "pwd" message
  | .ok _ => prints work (Text.Utf8.encode (pathText work.files.working ++ "\n")) 0

end Supervision.Host.Builtin
