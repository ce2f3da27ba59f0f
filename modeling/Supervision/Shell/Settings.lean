/-!
# Settings of the shell

The settings of a shell have a letter, a name or both.  Words that begin with a minus turn them on
and words that begin with a plus turn them off, many letters at once or one name after the letter
o; the words end where a word begins otherwise, or at two dashes.
-/

namespace Supervision.Shell

/-- The names of the settings in the order in which they are listed, each with its letter. -/
def settingNames : List (String × Option Char) :=
  [("errexit", some 'e'), ("noglob", some 'f'), ("ignoreeof", some 'I'), ("interactive", some 'i'),
    ("monitor", some 'm'), ("noexec", some 'n'), ("stdin", some 's'), ("xtrace", some 'x'),
    ("verbose", some 'v'), ("vi", some 'V'), ("emacs", some 'E'), ("noclobber", some 'C'),
    ("allexport", some 'a'), ("notify", some 'b'), ("nounset", some 'u'),
    ("privileged", some 'p'), ("nolog", none), ("debug", none)]

/-- Letters as a parameter shows them, each at most once: those of the last settings come first. -/
def sortedLetters (letters : List Char) : List Char :=
  settingNames.reverse.filterMap fun (_, letter?) =>
    letter?.bind fun letter => if letters.contains letter then some letter else none

def switchLetter (on : Bool) (letter : Char) (letters : List Char) : List Char :=
  let others := letters.filter (· != letter)
  if on then letter :: others else others

/-- What words of settings say: the letters that are on afterwards, whether a text follows instead
of a file, the lists that are to be shown, and the words left over, if they replace what there
was. -/
structure SettingWords where
  letters : List Char
  givesText : Bool
  shows : List Bool
  operands : Option (List String)

/-- Reads the letters of one word; gives back the words after it that are left. -/
def readLetters (atStart on : Bool) (read : SettingWords) (rest : List String) :
    List Char → Except String (SettingWords × List String)
  | [] => .ok (read, rest)
  | letter :: letters =>
    if letter = 'c' && atStart then
      readLetters atStart on { read with givesText := true } rest letters
    else if letter = 'l' && atStart then readLetters atStart on read rest letters
    else if letter = 'o' then
      match rest with
      | [] => readLetters atStart on { read with shows := read.shows ++ [on] } [] letters
      | name :: rest =>
        match settingNames.lookup name with
        | some (some found) =>
          readLetters atStart on { read with letters := switchLetter on found read.letters } rest
            letters
        | some none => readLetters atStart on read rest letters
        | none => .error ("Illegal option -o " ++ name)
    else if settingNames.any fun entry => entry.2 == some letter then
      readLetters atStart on { read with letters := switchLetter on letter read.letters } rest
        letters
    else .error ("Illegal option -" ++ String.ofList [letter])

/-- Reads words of settings, at the start of a shell or while it runs; `steps` bounds how many. -/
def readSettings (atStart : Bool) : Nat → SettingWords → List String → Except String SettingWords
  | 0, read, rest => .ok { read with operands := some rest }
  | _, read, [] => .ok (if atStart then { read with operands := some [] } else read)
  | steps + 1, read, word :: rest =>
    match word.toList with
    | ['-'] =>
      let letters := if atStart then read.letters
        else read.letters.filter fun letter => letter != 'x' && letter != 'v'
      .ok { read with
        letters
        operands := if atStart || !rest.isEmpty then some rest else none }
    | ['-', '-'] => .ok { read with operands := some rest }
    | '-' :: letters =>
      match readLetters atStart true read rest letters with
      | .error message => .error message
      | .ok (read, rest) => readSettings atStart steps read rest
    | '+' :: letters =>
      match readLetters atStart false read rest letters with
      | .error message => .error message
      | .ok (read, rest) => readSettings atStart steps read rest
    | _ => .ok { read with operands := some (word :: rest) }

/-- The settings as a list of what is on and off, or as the words that would bring them about. -/
def settingList (asTable : Bool) (letters : List Char) : String :=
  let isOn (letter? : Option Char) : Bool := letter?.elim false fun letter => letters.contains letter
  let line (name : String) (letter? : Option Char) : String :=
    if asTable then
      name ++ String.ofList (List.replicate (16 - name.length) ' ')
        ++ (if isOn letter? then "on" else "off") ++ "\n"
    else "set " ++ (if isOn letter? then "-" else "+") ++ "o " ++ name ++ "\n"
  (if asTable then "Current option settings\n" else "")
    ++ String.join (settingNames.map fun (name, letter?) => line name letter?)

end Supervision.Shell
