/-!
# Switches

The options that follow a command.  A switch has a long name and perhaps a letter; it stands alone
or takes a value, which is attached to it or comes next.  Letters may share one dash, nothing but
switches and their values is accepted, and a switch is given once at most.
-/

namespace Supervision.Cli

/-- What a switch does to the options read so far.  Nothing comes of one that is given twice or of a
value that cannot be read. -/
inductive Effect (α : Type)
  | flag (set : α → Option α)
  | takes (set : String → α → Option α)

structure Switch (α : Type) where
  long : String
  short : Option Char
  effect : Effect α

inductive Reading (α : Type)
  | read (value : α)
  | help
  | misused

/-- How far one argument has been read: all of it, or up to a value that is to follow. -/
inductive Progress (α : Type)
  | done (value : α)
  | wants (set : String → α → Option α) (value : α)
  | help
  | misused

namespace Switch

variable {α : Type}

/-- An effect that may have failed. -/
def settled (value : Option α) : Progress α :=
  match value with
  | some value => .done value
  | none => .misused

/-- Reads an argument with two dashes, given without them. -/
def readLong (switches : List (Switch α)) (value : α) (word : List Char) : Progress α :=
  let name := word.takeWhile (· != '=')
  let attached := (word.drop name.length).tail?.map String.ofList
  if name == "help".toList then if attached.isNone then .help else .misused
  else match switches.find? fun switch => switch.long.toList == name with
  | none => .misused
  | some switch =>
    match switch.effect, attached with
    | .flag set, none => settled (set value)
    | .flag _, some _ => .misused
    | .takes set, some text => settled (set text value)
    | .takes set, none => .wants set value

/-- The value that is attached to a letter, if there is one; an equals sign before it is dropped. -/
def attachedTo : List Char → Option String
  | [] => none
  | '=' :: rest => some (String.ofList rest)
  | rest => some (String.ofList rest)

/-- Reads the letters behind one dash. -/
def readLetters (switches : List (Switch α)) (value : α) : List Char → Progress α
  | [] => .done value
  | letter :: rest =>
    if letter == 'h' then .help
    else match switches.find? fun switch => switch.short == some letter with
    | none => .misused
    | some switch =>
      match switch.effect with
      | .flag set =>
        match set value with
        | some value => readLetters switches value rest
        | none => .misused
      | .takes set =>
        match attachedTo rest with
        | some text => settled (set text value)
        | none => .wants set value

def readArgument (switches : List (Switch α)) (value : α) (argument : String) : Progress α :=
  match argument.toList with
  | '-' :: '-' :: word => readLong switches value word
  | '-' :: letter :: letters => readLetters switches value (letter :: letters)
  | _ => .misused

/-- Is an argument a switch rather than a value?  A single dash is a value. -/
def looksLikeSwitch (argument : String) : Bool :=
  match argument.toList with
  | '-' :: _ :: _ => true
  | _ => false

/-- Reads all arguments.  Two dashes by themselves end the switches, and nothing may follow. -/
def readAll (switches : List (Switch α)) (value : α) : List String → Reading α
  | [] => .read value
  | argument :: rest =>
    if argument == "--" then if rest.isEmpty then .read value else .misused
    else match readArgument switches value argument with
    | .done value => readAll switches value rest
    | .help => .help
    | .misused => .misused
    | .wants set value =>
      match rest with
      | [] => .misused
      | text :: rest =>
        if looksLikeSwitch text then .misused
        else match set text value with
        | some value => readAll switches value rest
        | none => .misused

end Switch

end Supervision.Cli
