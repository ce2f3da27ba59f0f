import Supervision.Host.Call

/-!
# Listings of directories

Names are listed one a line or, on a terminal, in columns that go down first and are as many as fit
the width.
-/

namespace Supervision.Host

def columnWidths (rows : Nat) : Nat → List String → List Nat
  | 0, _ => []
  | fuel + 1, names =>
    if names.isEmpty then []
    else
      (((names.take rows).map String.length).foldl max 0)
        :: columnWidths rows fuel (names.drop rows)

/-- The width of a layout whose columns are two blanks apart. -/
def layoutWidth (widths : List Nat) : Nat := widths.foldl Nat.add 0 + 2 * (widths.length - 1)

/-- The blanks between two places in a line: as many tabs as fit, and then single blanks. -/
def gap (start goal : Nat) : Nat → String
  | 0 => ""
  | fuel + 1 =>
    if goal ≤ start then ""
    else if (start + 1) / 8 < goal / 8 then "\t" ++ gap (start + (8 - start % 8)) goal fuel
    else " " ++ gap (start + 1) goal fuel

/-- The cells of a line, each with the width of its column, from a place of the line on where the
text so far has come to another. -/
def laidOut (reached place : Nat) : List (String × Nat) → String
  | [] => ""
  | (cell, width) :: rest =>
    gap reached place (place - reached) ++ cell
      ++ laidOut (place + cell.length) (place + width + 2) rest

/-- Names in columns that go down first, in as few rows as fit the width. -/
def inColumns (width : Nat) (names : List String) : String :=
  let fits (rows : Nat) : Bool :=
    layoutWidth (columnWidths rows names.length names) < width
  let rows := (((List.range names.length).map (· + 1)).find? fits).getD names.length
  let widths := columnWidths rows names.length names
  let line (row : Nat) : String :=
    let cells := (List.range widths.length).filterMap fun column => names[column * rows + row]?
    laidOut 0 0 (cells.zip widths) ++ "\n"
  String.join ((List.range rows).map line)

/-- Names with commas between them, in lines of less than so many characters. -/
def withCommas (width : Nat) (names : List String) : String :=
  let (text, _) := (names.mapIdx fun index name => (index, name)).foldl
    (fun (text, place) (index, name) =>
      let isLast := index + 1 = names.length
      let length := name.length + if isLast then 0 else 2
      if index = 0 then (name, name.length)
      else if place + length + 2 ≤ width || (isLast && place + length + 2 < width) then
        (text ++ ", " ++ name, place + 2 + name.length)
      else (text ++ ",\n" ++ name, name.length)) ("", 0)
  text ++ "\n"

/-- Names in columns that go across first, in as few rows as fit the width. -/
def inRows (width : Nat) (names : List String) : String :=
  let count := names.length
  let columnsFor (columns : Nat) : List Nat :=
    (List.range columns).map fun column =>
      ((names.mapIdx fun index name => if index % columns = column then name.length else 0)).foldl
        max 0
  let fits (columns : Nat) : Bool := layoutWidth (columnsFor columns) < width
  let columns := ((((List.range count).map (· + 1)).reverse).find? fits).getD 1
  let widths := columnsFor columns
  let line (row : Nat) : String :=
    laidOut 0 0 (((names.drop (row * columns)).take columns).zip widths) ++ "\n"
  String.join ((List.range ((count + columns - 1) / columns)).map line)

/-- Names in a list, in columns on a terminal. -/
def listing (call : Call) (letters : List Char) (names : List String) : String :=
  let names := if letters.contains 'r' then names.reverse else names
  let layout := letters.reverse.find? fun letter => ['1', 'C', 'm', 'x'].contains letter
  let inTable := layout.isNone || layout = some 'C' || layout = some 'x'
  let names := if !call.isTerminal 1 then names
    else if inTable && names.any (fun name => shownIfNeeded name != name) then
      names.map fun name =>
        let shown := shownIfNeeded name
        if shown == name then " " ++ name else shown
    else names.map shownIfNeeded
  let width := call.width ((call.terminal.map fun wire => wire.modes.columns).getD 0)
  if names.isEmpty then ""
  else if layout = some 'm' then withCommas width names
  else if layout = some 'x' then inRows width names
  else if layout = some 'C' || (call.isTerminal 1 && layout.isNone) then inColumns width names
  else String.join (names.map fun name => name ++ "\n")

/-- A name with a sign for what it stands for, if signs are asked for. -/
def marked (files : Files.Tree) (letters : List Char) (directory : List String) (name : String) :
    String :=
  let node := match files.walk directory [name] with
    | .ok path => files.node? path
    | .error _ => none
  match node with
  | some .directory =>
    if letters.contains 'F' || letters.contains 'p' then name ++ "/" else name
  | some (.file _ true) | some (.program _) => if letters.contains 'F' then name ++ "*" else name
  | some (.socket _) => if letters.contains 'F' then name ++ "=" else name
  | _ => name

def directoryNames (files : Files.Tree) (name : List String) (letters : List Char) : List String :=
  let all := files.children name
  if letters.contains 'a' then "." :: ".." :: all
  else if letters.contains 'A' then all
  else all.filter fun name => name.toList.head? != some '.'

/-- The directories that are listed for an operand: itself and, if asked for, all those in it, each
before those inside it; `depth` bounds how deep they lie. -/
def listedDirectories (files : Files.Tree) (letters : List Char) :
    Nat → String → List String → List (String × List String)
  | 0, _, _ => []
  | depth + 1, path, name =>
    let inside := if !letters.contains 'R' then []
      else
        let names := (directoryNames files name letters).filter fun part =>
          part != "." && part != ".." && files.node? (name ++ [part]) == some .directory
        let names := if letters.contains 'r' then names.reverse else names
        names.flatMap fun part =>
          listedDirectories files letters depth (Files.join path part) (name ++ [part])
    (path, name) :: inside

def list (call : Call) : Outcome :=
  let options := readOptions call.arguments
  let letters := options.letters
  let operands := if options.operands.isEmpty then ["."] else options.operands
  let found := operands.map fun operand => (operand, call.files.find operand)
  let missing := found.filterMap fun (operand, node) =>
    match node with
    | .error errno => some (call.complaint ("cannot access " ++ shown operand ++ ": " ++ errno.sentence))
    | .ok _ => none
  let isListed (node : Except Errno Files.Node) : Bool :=
    !letters.contains 'd' && node matches .ok .directory
  let order (first second : String) : Bool :=
    if letters.contains 'r' then decide (second ≤ first) else decide (first ≤ second)
  let plain := (found.filterMap fun (operand, node) =>
    if node.toBool && !isListed node then some operand else none).mergeSort
      fun first second => decide (first ≤ second)
  let directories := (found.filterMap fun (operand, node) =>
    if isListed node then some operand else none).mergeSort order
  let all := directories.flatMap fun operand =>
    match call.files.resolve operand with
    | .ok name => listedDirectories call.files letters (call.files.nodes.length + 1) operand name
    | .error _ => []
  let hasHeads := 1 < operands.length || letters.contains 'R'
  let paragraph (path : String) (name : List String) : String :=
    let names := (directoryNames call.files name letters).map (marked call.files letters name)
    let head := if call.isTerminal 1 then shownInComplaint path else path
    (if hasHeads then head ++ ":\n" else "") ++ listing call letters names
  let sections := (if plain.isEmpty then [] else [listing call letters plain])
    ++ all.map fun (path, name) => paragraph path name
  let text := "\n".intercalate sections
  ⟨missing ++ [(1, Text.Utf8.encode text)], call.files, call.terminal,
    if missing.isEmpty then 0 else 2⟩

end Supervision.Host
