import Supervision.Shell.Fields

/-!
# Options among words

A script reads the options among its parameters one at a time.  The known options are given as a
text of letters in which a colon stands behind each letter that takes a value, and a colon in front
of all asks for silence about what is wrong.  Each reading says where the next one goes on.
-/

namespace Supervision.Shell

/-- What becomes of the value of the option that was read before. -/
inductive OptionValue
  | kept
  | unset
  | given (text : String)
  deriving DecidableEq, Repr

/-- One reading: the letter that was found, its value, a complaint, and the place of the next. -/
structure OptionReading where
  letter : Char
  value : OptionValue
  complaint : String
  isOver : Bool
  word : Nat
  offset : Option Nat
  deriving Repr

/-- What stands behind a letter among the known ones; a colon behind a letter is part of it. -/
def behindLetter? (letter : Char) : List Char → Option (List Char)
  | [] => none
  | known :: rest =>
    if known = letter then some rest
    else match rest with
    | ':' :: rest => behindLetter? letter rest
    | rest => behindLetter? letter rest

/-- Reads a letter out of a word whose rest is `rest`; the next word has the number `word`. -/
def readOptionLetter (known : List Char) (words : List String) (word : Nat) (letter : Char)
    (rest : List Char) : OptionReading :=
  let quiet := known.head? == some ':'
  let offset (rest : List Char) : Option Nat :=
    (words[word - 2]?).map fun text => text.length - rest.length
  let fault (message : String) (found : Char) (offset : Option Nat) : OptionReading :=
    if quiet then ⟨found, .given (String.ofList [letter]), "", false, word, offset⟩
    else ⟨'?', .unset, message, false, word, offset⟩
  match behindLetter? letter known with
  | none => fault ("Illegal option -" ++ String.ofList [letter] ++ "\n") '?' (offset rest)
  | some (':' :: _) =>
    if !rest.isEmpty then ⟨letter, .given (String.ofList rest), "", false, word, none⟩
    else match words[word - 1]? with
    | some value => ⟨letter, .given value, "", false, word + 1, none⟩
    | none => fault ("No arg for -" ++ String.ofList [letter] ++ " option\n") ':' none
  | some _ => ⟨letter, .given "", "", false, word, offset rest⟩

/-- Reads the next option among words, from a place on. -/
def readOption (known : List Char) (words : List String) (word : Nat) (offset : Option Nat) :
    OptionReading :=
  let (word, offset) := if word ≤ words.length + 1 then (word, offset) else (1, none)
  let finished (word : Nat) : OptionReading := ⟨'?', .kept, "", true, word, none⟩
  let left := match offset, if word ≤ 1 then none else words[word - 2]? with
    | some offset, some text => text.toList.drop offset
    | _, _ => []
  match left with
  | letter :: rest => readOptionLetter known words word letter rest
  | [] =>
    match (words[word - 1]?).map String.toList with
    | some ['-', '-'] => finished (word + 1)
    | some ('-' :: letter :: rest) => readOptionLetter known words (word + 1) letter rest
    | _ => finished word

end Supervision.Shell
