import Supervision.Host.Call

/-!
# Utilities that change files

Removing, moving and making files and directories.  Each operand is taken by itself, and what is
wrong with one does not keep the others from being taken.
-/

namespace Supervision.Host

/-- Does a path end in a part that stands for a directory by its place? -/
def endsInPlace (path : String) : Bool :=
  match (Files.segments path).getLast? with
  | some last => last == "." || last == ".."
  | none => false

/-- What is told of everything that goes with a directory, the innermost first; `depth` bounds how
deep it lies. -/
def removalNotes (files : Files.Tree) : Nat → String → List String → List String
  | 0, _, _ => []
  | depth + 1, path, name =>
    match files.node? name with
    | some .directory =>
      (files.children name).flatMap (fun part =>
          removalNotes files depth (Files.join path part) (name ++ [part]))
        ++ ["removed directory " ++ shown path]
    | _ => ["removed " ++ shown path]

/-- What kind of thing is asked about before it is removed. -/
def kindOf (node : Files.Node) : String :=
  match node with
  | .directory => "directory"
  | .file [] _ => "regular empty file"
  | .file .. | .program _ => "regular file"
  | .socket _ => "socket"
  | .nullDevice => "character special file"

/-- What comes of removing a path: it is done, with what is told of it, or it is refused, or it is
asked about. -/
inductive Removal
  | done (told : String) (files : Files.Tree)
  | refused (message : String)
  | asked (question : String)

/-- Removes one path as options say.  Nobody answers when it is asked about, so it stays. -/
def removePath (letters : List Char) (files : Files.Tree) (path : String) : Removal :=
  let has (letter : Char) : Bool := letters.contains letter
  let recursive := has 'r' || has 'R'
  let fault (errno : Errno) : Removal :=
    .refused ("cannot remove " ++ shown path ++ ": " ++ errno.sentence)
  let done (lines : List String) (files : Files.Tree) : Removal :=
    .done (if has 'v' then String.join (lines.map (· ++ "\n")) else "") files
  if Files.Tree.hasNul path then fault .invalidArgument
  else if recursive && endsInPlace path then
    .refused ("refusing to remove '.' or '..' directory: skipping " ++ shown path)
  else match files.resolve path with
  | .error errno =>
    if has 'f' && (errno = .noSuchFile || errno = .notADirectory) then .done "" files
    else fault errno
  | .ok name =>
    match files.node? name with
    | none => if has 'f' then .done "" files else fault .noSuchFile
    | some node =>
      let isDirectory := node = .directory
      if isDirectory && !recursive && !has 'd' then fault .isADirectory
      else if has 'i' then
        let inside := isDirectory && !(files.children name).isEmpty
        .asked ((if inside then "descend into " else "remove ") ++ kindOf node ++ " "
          ++ shown path ++ "? ")
      else if isDirectory && !recursive && !(files.children name).isEmpty then
        fault .directoryNotEmpty
      else
        done (removalNotes files (files.nodes.length + 1) path name)
          { files with nodes := files.nodes.filter fun entry => !name.isPrefixOf entry.1 }

def remove (call : Call) : Outcome :=
  let options := readOptions call.arguments
  if options.operands.isEmpty then
    if options.letters.contains 'f' then call.finish 0 else call.misused "missing operand"
  else
    let (files, writes, status) := options.operands.foldl
      (fun (files, writes, status) path =>
        match removePath options.letters files path with
        | .done told files => (files, writes ++ [(1, Text.Utf8.encode told)], status)
        | .refused message => (files, writes ++ [call.complaint message], 1)
        | .asked question =>
          (files, writes ++ [(2, Text.Utf8.encode (call.called ++ ": " ++ question))], status))
      (call.files, [], 0)
    ⟨writes, files, call.terminal, status⟩

def touch (call : Call) : Outcome :=
  let options := readOptions call.arguments
  if options.operands.isEmpty then call.misused "missing file operand"
  else
    eachOperand call options.operands fun files path =>
      let fault (errno : Errno) : Except String (String × Files.Tree) :=
        .error ("cannot touch " ++ shown path ++ ": " ++ errno.sentence)
      match files.resolve path with
      | .error errno =>
        if errno = .noSuchFile && options.letters.contains 'c' then .ok ("", files)
        else if errno = .noSuchFile && files.wouldBeDirectory path then
          .error ("setting times of " ++ shown path ++ ": " ++ errno.sentence)
        else fault errno
      | .ok name =>
        match files.node? name, files.node? name.dropLast with
        | some _, _ => .ok ("", files)
        | none, some .directory =>
          .ok ("", if options.letters.contains 'c' then files else files.put name (.file [] false))
        | none, some _ => fault .notADirectory
        | none, none => fault .noSuchFile

def baseName (path : String) : String := ((Files.names path).getLast?).getD "/"

/-- Why one path cannot be moved to another that leads there, if it cannot; `origin` and `goal` are
their names. -/
def moveFault? (files : Files.Tree) (source final : String) (origin goal : List String)
    (node : Files.Node) : Option String :=
  let there := files.node? goal
  let isDirectory := node = .directory
  let failed (errno : Errno) : Option String :=
    some ("cannot move " ++ shown source ++ " to " ++ shown final ++ ": " ++ errno.sentence)
  if origin = goal then some (shown source ++ " and " ++ shown final ++ " are the same file")
  else if there = some .directory && !isDirectory then
    some ("cannot overwrite directory " ++ shown final ++ " with non-directory")
  else if there.isSome && there != some .directory && isDirectory then
    some ("cannot overwrite non-directory " ++ shown final ++ " with directory " ++ shown source)
  else if isDirectory && origin.isPrefixOf goal then
    some ("cannot move " ++ shown source ++ " to a subdirectory of itself, " ++ shown final)
  else if isDirectory && !(files.children goal).isEmpty then
    some ("cannot overwrite " ++ shown final ++ ": " ++ Errno.directoryNotEmpty.sentence)
  else if files.node? goal.dropLast != some .directory then
    failed (if (files.node? goal.dropLast).isSome then .notADirectory else .noSuchFile)
  else none

def movePath (options : Options) (files : Files.Tree) (source target : String) :
    Except String (String × Files.Tree) :=
  let cannotStat (path : String) (errno : Errno) : Except String (String × Files.Tree) :=
    .error ("cannot stat " ++ shown path ++ ": " ++ errno.sentence)
  match files.find source with
  | .error errno => cannotStat source errno
  | .ok node =>
    let intoTarget := files.isDirectory target && !options.letters.contains 'T'
    let final := if intoTarget then Files.join target (baseName source) else target
    let trimmed := String.ofList (final.toList.reverse.dropWhile (· == '/')).reverse
    match files.resolve source, files.find final, files.resolve trimmed with
    | .ok origin, there, .ok goal =>
      let isOpen := final == trimmed || node = .directory
      match there with
      | .error errno =>
        if errno != .noSuchFile then cannotStat final errno
        else if !isOpen then
          .error ("cannot move " ++ shown source ++ " to " ++ shown final ++ ": "
            ++ Errno.notADirectory.sentence)
        else match moveFault? files source final origin goal node with
        | some message => .error message
        | none => .ok (note options ("renamed " ++ shown source ++ " -> " ++ shown final),
            files.relocate origin goal)
      | .ok _ =>
        if options.letters.contains 'n' && origin != goal then .ok ("", files)
        else match moveFault? files source final origin goal node with
        | some message => .error message
        | none => .ok (note options ("renamed " ++ shown source ++ " -> " ++ shown final),
            files.relocate origin goal)
    | .error errno, _, _ => cannotStat source errno
    | _, _, .error errno =>
      if errno = .noSuchFile then
        .error ("cannot move " ++ shown source ++ " to " ++ shown final ++ ": " ++ errno.sentence)
      else cannotStat final errno

def move (call : Call) : Outcome :=
  let options := readOptions call.arguments
  match options.operands.reverse with
  | [] => call.misused "missing file operand"
  | [source] => call.misused ("missing destination file operand after " ++ shown source)
  | target :: sources =>
    if 1 < sources.length && !call.files.isDirectory target then
      call.complain ("target " ++ shown target ++ ": "
        ++ (if call.files.exists target then Errno.notADirectory else .noSuchFile).sentence) 1
    else eachOperand call sources.reverse fun files source =>
      movePath options files source target

/-- Makes directories, with those they are in if that is asked for. -/
def makeDirectories (call : Call) : Outcome :=
  let options := readOptions call.arguments
  if options.operands.isEmpty then call.misused "missing operand"
  else
    eachOperand call options.operands fun files path =>
      let made : Except Errno Files.Tree :=
        if options.letters.contains 'p' then files.makeDirectoriesWithin path (path.length + 1)
        else files.makeDirectory path
      match made with
      | .ok files => .ok ("", files)
      | .error errno =>
        .error ("cannot create directory " ++ shown path ++ ": " ++ errno.sentence)

/-- Removes directories that hold nothing. -/
def removeDirectories (call : Call) : Outcome :=
  let options := readOptions call.arguments
  if options.operands.isEmpty then call.misused "missing operand"
  else
    eachOperand call options.operands fun files path =>
      let removed : Except Errno Files.Tree := do
        let name ← files.resolve path
        match files.node? name with
        | none => .error .noSuchFile
        | some .directory =>
          if (files.children name).isEmpty then .ok (files.drop name)
          else .error .directoryNotEmpty
        | some _ => .error .notADirectory
      match removed with
      | .ok files => .ok ("", files)
      | .error errno => .error ("failed to remove " ++ shown path ++ ": " ++ errno.sentence)

end Supervision.Host
