import Supervision.Host.Printing

/-!
# Settings of a terminal

Showing and changing how a terminal works.  All words are looked at before any of them counts, and a
terminal that cannot do all that is asked of it does what it can.
-/

namespace Supervision.Host

def lineSpeeds : List (Nat × UInt32) :=
  [(0, 0), (50, 1), (75, 2), (110, 3), (134, 4), (150, 5), (200, 6), (300, 7), (600, 8), (1200, 9),
    (1800, 10), (2400, 11), (4800, 12), (9600, 13), (19200, 14), (38400, 15), (57600, 0x1001),
    (115200, 0x1002), (230400, 0x1003), (460800, 0x1004), (500000, 0x1005), (576000, 0x1006),
    (921600, 0x1007), (1000000, 0x1008), (1152000, 0x1009), (1500000, 0x100a), (2000000, 0x100b),
    (2500000, 0x100c), (3000000, 0x100d), (3500000, 0x100e), (4000000, 0x100f)]

def speedMask : UInt32 := 0x100f

namespace TerminalModes

def speed (modes : TerminalModes) : Nat :=
  ((lineSpeeds.find? fun entry => entry.2 == modes.control &&& speedMask).map (·.1)).getD 0

def turnAll (modes : TerminalModes) (names : List String) (on : Bool) : TerminalModes :=
  Switch.all.foldl
    (fun modes switch => if names.contains switch.name then modes.turn switch on else modes) modes

/-- Puts everything back as it usually is. -/
def sane (modes : TerminalModes) : TerminalModes :=
  let modes := TerminalKey.all.foldl (fun modes key => modes.setKey key.index key.usual) modes
  let modes := (modes.setKey TerminalKey.leastIndex 1).setKey TerminalKey.timeIndex 0
  Switch.all.foldl
    (fun modes switch =>
      match switch.usual with
      | some on => modes.turn switch on
      | none => modes) modes

/-- Every byte passes through, at once and unchanged. -/
def raw (modes : TerminalModes) : TerminalModes :=
  let modes := { modes with input := 0 }.turnAll ["opost", "isig", "icanon", "xcase"] false
  (modes.setKey TerminalKey.leastIndex 1).setKey TerminalKey.timeIndex 0

/-- Lines are edited, and bytes have their usual meaning. -/
def cooked (modes : TerminalModes) : TerminalModes :=
  modes.turnAll ["brkint", "ignpar", "istrip", "icrnl", "ixon", "opost", "isig", "icanon"] true

/-- Bytes of seven bits with a parity, or of eight without. -/
def parity (modes : TerminalModes) (on odd : Bool) : TerminalModes :=
  if on then ((modes.turnAll ["cs7", "parenb"] true)).turnAll ["parodd"] odd
  else (modes.turnAll ["cs8"] true).turnAll ["parenb"] false

/-- The changes that have names of their own, for the name as it is and with a minus before it. -/
def combined? (modes : TerminalModes) (name : String) (reversed : Bool) : Option TerminalModes :=
  match name, reversed with
  | "evenp", _ | "parity", _ => some (modes.parity (!reversed) false)
  | "oddp", _ => some (modes.parity (!reversed) true)
  | "nl", false => some (modes.turnAll ["icrnl", "onlcr"] false)
  | "nl", true =>
    some ((modes.turnAll ["icrnl", "onlcr"] true).turnAll ["inlcr", "igncr", "ocrnl", "onlret"] false)
  | "ek", false => some ((modes.setKey 2 127).setKey 3 21)
  | "sane", false => some modes.sane
  | "cbreak", _ => some (modes.turnAll ["icanon"] reversed)
  | "pass8", false => some ((modes.parity false false).turnAll ["istrip"] false)
  | "pass8", true => some ((modes.turnAll ["cs7", "parenb", "istrip"] true))
  | "litout", false => some ((modes.parity false false).turnAll ["istrip", "opost"] false)
  | "litout", true => some (modes.turnAll ["cs7", "parenb", "istrip", "opost"] true)
  | "raw", false | "cooked", true => some modes.raw
  | "raw", true | "cooked", false => some modes.cooked
  | "decctlq", _ => some (modes.turnAll ["ixany"] reversed)
  | "tabs", _ => some (modes.turnAll [if reversed then "tab3" else "tab0"] true)
  | "lcase", _ | "LCASE", _ => some (modes.turnAll ["xcase", "iuclc", "olcuc"] (!reversed))
  | "crt", false => some (modes.turnAll ["echoe", "echoctl", "echoke"] true)
  | "dec", false =>
    let modes := ((modes.setKey 0 3).setKey 2 127).setKey 3 21
    some ((modes.turnAll ["echoe", "echoctl", "echoke"] true).turnAll ["ixany"] false)
  | _, _ => none

/-- A switch or a change with a name. -/
def named? (modes : TerminalModes) (name : String) (reversed : Bool) : Option TerminalModes :=
  match Switch.all.find? (·.name == name) with
  | some switch =>
    if reversed && !switch.reversible then none else some (modes.turn switch (!reversed))
  | none => modes.combined? name reversed

/-- The modes that a child's end of a terminal can have: bytes always have eight bits. -/
def possible (modes : TerminalModes) : TerminalModes :=
  { modes with control := (modes.control &&& (~~~0x130)) ||| 0xb0 }

end TerminalModes

def digitValue? (base : Nat) (char : Char) : Option Nat :=
  let value :=
    if char.isDigit then char.toNat - 48
    else if 'a' ≤ char && char ≤ 'z' then char.toNat - 87
    else if 'A' ≤ char && char ≤ 'Z' then char.toNat - 55
    else base
  if value < base then some value else none

def numberIn? (base : Nat) (digits : List Char) : Option Nat :=
  if digits.isEmpty then none
  else digits.foldlM (fun total char => (digitValue? base char).map (total * base + ·)) 0

/-- A count of at most so many, as words for terminals give it. -/
def terminalCount (most : Nat) (text : String) : Except String Nat :=
  let fault := "invalid integer argument: " ++ escaped text
  let unit := match text.toList.getLast? with
    | some 'b' => 512
    | some 'B' => 1024
    | _ => 1
  let digits := if unit = 1 then text.toList else text.toList.dropLast
  let value := match if text.startsWith "0x" then text.toList else digits with
    | '0' :: 'x' :: digits | '0' :: 'X' :: digits => numberIn? 16 digits
    | '0' :: digits => if digits.isEmpty then some 0 else (numberIn? 8 digits).map (· * unit)
    | digits => (numberIn? 10 digits).map (· * unit)
  match value with
  | none => .error fault
  | some value =>
    if value ≤ most then .ok value
    else
      let reason := if 1073741823 < value then Errno.tooLarge else Errno.outOfRange
      .error (fault ++ ": " ++ reason.sentence)

/-- The byte that a word gives for a key. -/
def keyByte (text : String) : Except String UInt8 :=
  match (Text.Utf8.encode text) with
  | [] => .ok 0
  | [byte] => .ok byte
  | first :: second :: _ =>
    if text == "^-" || text == "undef" then .ok 0
    else if first = 0x5e then .ok (if second = 0x3f then 127 else second &&& 0x9f)
    else (terminalCount 255 text).map Nat.toUInt8

def shownKey (byte : UInt8) : String :=
  let plain (code : Nat) : String :=
    if code < 32 then "^" ++ String.ofList [Char.ofNat (code + 64)]
    else if code = 127 then "^?"
    else String.ofList [Char.ofNat code]
  let code := byte.toNat
  if code = 0 then "<undef>" else if code < 128 then plain code else "M-" ++ plain (code - 128)

/-- Words in lines of at most so many columns. -/
def wrapped (width : Nat) (words : List String) : String :=
  let (text, _) := words.foldl
    (fun (text, place) word =>
      if place = 0 then (text ++ word, word.length)
      else if width < place + 1 + word.length then (text ++ "\n" ++ word, word.length)
      else (text ++ " " ++ word, place + 1 + word.length)) ("", 0)
  text

/-- Lines, each ended; none of them empty. -/
def endedLines (lines : List String) : String :=
  String.join ((lines.filter fun line => !line.isEmpty).map (· ++ "\n"))

/-- The switches of one group that a list shows, each as it stands. -/
def switchWords (modes : TerminalModes) (group : SwitchGroup) (all : Bool) : List String :=
  Switch.all.filterMap fun switch =>
    let isOn := modes.isOn switch
    if switch.group != group || !switch.listed then none
    else if isOn then if all || switch.usual = some false then some switch.name else none
    else if switch.reversible && (all || switch.usual = some true) then some ("-" ++ switch.name)
    else none

/-- The keys and what follows them in a list. -/
def keyWords (modes : TerminalModes) (all : Bool) : List String :=
  let keys := TerminalKey.all.filter fun key => all || modes.key key.index != key.usual
  let counts := "min = " ++ toString (modes.key TerminalKey.leastIndex).toNat ++ "; time = "
    ++ toString (modes.key TerminalKey.timeIndex).toNat ++ ";"
  let waits := modes.local &&& 2 != 0
  keys.map (fun key => key.name ++ " = " ++ shownKey (modes.key key.index) ++ ";")
    ++ (if all || !waits then [counts] else [])

/-- A list of the modes: of all, or of those that are not as usual. -/
def modesText (width : Nat) (modes : TerminalModes) (all : Bool) : String :=
  let size := "rows " ++ toString modes.rows ++ "; columns " ++ toString modes.columns ++ ";"
  let head := ["speed " ++ toString modes.speed ++ " baud;"] ++ (if all then [size] else [])
    ++ ["line = " ++ toString modes.line ++ ";"]
  let groups := [SwitchGroup.control, .input, .output, .local].map fun group =>
    wrapped width (switchWords modes group all)
  endedLines ([wrapped width head, wrapped width (keyWords modes all)] ++ groups)

/-- All modes as one word that can be given back. -/
def modesWord (modes : TerminalModes) : String :=
  let hex (value : Nat) : String := String.ofList (Nat.toDigits 16 value)
  ":".intercalate
    (([modes.input, modes.output, modes.control, modes.local].map fun word => hex word.toNat)
      ++ modes.keys.map fun key => hex key.toNat)

/-- The modes that such a word gives back. -/
def recoverModes? (modes : TerminalModes) (text : String) : Option TerminalModes := do
  let values ← (text.splitOn ":").mapM fun part => numberIn? 16 part.toList
  match values with
  | input :: output :: control :: «local» :: keys =>
    if keys.length = modes.keys.length then
      some { modes with
        input := input.toUInt32
        output := output.toUInt32
        control := control.toUInt32
        «local» := «local».toUInt32
        keys := keys.map Nat.toUInt8 }
    else none
  | _ => none

/-- What words do to a terminal: its modes after them, what is written, and whether more than its
size is set.  While words are only looked at, counts for its size may be anything. -/
structure ModesChange where
  modes : TerminalModes
  looks : Bool
  text : String
  sets : Bool

/-- Why words cannot be followed; some faults come with advice. -/
structure ModesFault where
  message : String
  advises : Bool

/-- Follows words in turn; `fuel` bounds their number. -/
def followWords : Nat → ModesChange → List String → Except ModesFault ModesChange
  | 0, change, _ | _, change, [] => .ok change
  | fuel + 1, change, word :: rest => do
    let modes := change.modes
    let plainly (message : String) : ModesFault := ⟨message, false⟩
    let invalid : ModesFault := ⟨"invalid argument " ++ escaped word, true⟩
    let set (modes : TerminalModes) (rest : List String) : Except ModesFault ModesChange :=
      followWords fuel { change with modes, sets := true } rest
    let operand : Except ModesFault (String × List String) :=
      match rest with
      | [] => .error ⟨"missing argument to " ++ escaped word, true⟩
      | text :: rest => .ok (text, rest)
    let count (most : Nat) : Except ModesFault (Nat × List String) := do
      let (text, rest) ← operand
      let value ← (terminalCount most text).mapError plainly
      return (value, rest)
    let size : Except ModesFault (Nat × List String) := do
      if change.looks then
        let (_, rest) ← operand
        return (0, rest)
      let (value, rest) ← count 2147483647
      return (value % 65536, rest)
    let speed (text : String) (rest : List String) (fault : ModesFault) :
        Except ModesFault ModesChange :=
      match text.toNat?.bind fun speed => lineSpeeds.lookup speed with
      | some bits => set (modes.put .control bits speedMask) rest
      | none => .error fault
    match word.toList with
    | '-' :: name =>
      let name := String.ofList name
      if name == "drain" then followWords fuel change rest
      else match modes.named? name true with
      | some modes => set modes rest
      | none => .error invalid
    | _ =>
      match modes.named? word false, TerminalKey.all.find? (·.name == word) with
      | some modes, _ => set modes rest
      | none, some key =>
        let (text, rest) ← operand
        let byte ← (keyByte text).mapError plainly
        set (modes.setKey key.index byte) rest
      | none, none =>
        match word with
        | "drain" => followWords fuel change rest
        | "min" | "time" =>
          let (value, rest) ← count 255
          let index := if word == "min" then TerminalKey.leastIndex else TerminalKey.timeIndex
          set (modes.setKey index value.toUInt8) rest
        | "rows" =>
          let (rows, rest) ← size
          followWords fuel { change with modes := { modes with rows } } rest
        | "cols" | "columns" =>
          let (columns, rest) ← size
          followWords fuel { change with modes := { modes with columns } } rest
        | "line" =>
          let (line, rest) ← count 18446744073709551615
          set { modes with line := line % 256 } rest
        | "ispeed" | "ospeed" =>
          let (text, rest) ← operand
          speed text rest ⟨"invalid " ++ word ++ " " ++ escaped text, true⟩
        | "size" =>
          let text := toString modes.rows ++ " " ++ toString modes.columns ++ "\n"
          followWords fuel { change with text := change.text ++ text } rest
        | "speed" =>
          let text := toString modes.speed ++ "\n"
          followWords fuel { change with text := change.text ++ text } rest
        | _ =>
          match recoverModes? modes word with
          | some modes => set modes rest
          | none => speed word rest invalid

/-- What the words of the command ask for. -/
structure SettingsRequest where
  all : Bool
  asWord : Bool
  devices : List String
  settings : List String

/-- Tells options from settings.  What is no option is a setting, wherever it stands. -/
def settingsRequest : List String → SettingsRequest
  | [] => ⟨false, false, [], []⟩
  | "-a" :: rest | "--all" :: rest => { settingsRequest rest with all := true }
  | "-g" :: rest | "--save" :: rest => { settingsRequest rest with asWord := true }
  | "-F" :: device :: rest | "--file" :: device :: rest =>
    let request := settingsRequest rest
    { request with devices := device :: request.devices }
  | "--" :: _ => ⟨false, false, [], []⟩
  | word :: rest =>
    let request := settingsRequest rest
    match word.toList with
    | '-' :: 'F' :: first :: more | '-' :: '-' :: 'f' :: 'i' :: 'l' :: 'e' :: '=' :: first :: more =>
      { request with devices := String.ofList (first :: more) :: request.devices }
    | _ => { request with settings := word :: request.settings }

/-- The terminal that is asked about, and how complaints name it. -/
def askedTerminal (call : Call) (devices : List String) : String × Except Errno Wire :=
  let own (errno : Errno) : Except Errno Wire := call.terminal.elim (.error errno) .ok
  match devices with
  | [] => ("'standard input'", own .notATerminal)
  | device :: _ =>
    let node := match call.files.resolve device with
      | .ok ["dev", "tty"] => own .noSuchDevice
      | .ok ["dev", "stdin"] => own .notATerminal
      | .ok name => if (call.files.node? name).isSome then .error .notATerminal else .error .noSuchFile
      | .error errno => .error errno
    (shownInComplaint device, node)

def terminalSettings (call : Call) : Outcome :=
  let request := settingsRequest call.arguments
  let words := request.settings
  let follow (modes : TerminalModes) (looks : Bool) : Except ModesFault ModesChange :=
    followWords (words.length + 1) ⟨modes, looks, "", false⟩ words
  let refuse (fault : ModesFault) : Outcome :=
    if fault.advises then call.misused fault.message else call.complain fault.message 1
  let shows := request.all || request.asWord
  let sets := words.any fun word => word != "drain" && word != "-drain"
  if 1 < request.devices.length then call.complain "only one device may be specified" 1
  else if request.all && request.asWord then
    call.complain
      "the options for verbose and stty-readable output styles are\nmutually exclusive" 1
  else if shows && sets then
    call.complain "when specifying an output style, modes may not be set" 1
  else match follow .fresh true with
  | .error fault => refuse fault
  | .ok _ =>
    match askedTerminal call request.devices with
    | (name, .error errno) => call.complain (name ++ ": " ++ errno.sentence) 1
    | (name, .ok wire) =>
      let width := call.width wire.modes.columns
      if request.asWord then call.prints (Text.Utf8.encode (modesWord wire.modes ++ "\n")) 0
      else if request.all || !sets then
        call.prints (Text.Utf8.encode (modesText width wire.modes request.all)) 0
      else match follow wire.modes false with
      | .error fault => refuse fault
      | .ok change =>
        let modes := if change.sets then change.modes.possible else change.modes
        let outcome :=
          { call.prints (Text.Utf8.encode change.text) 0 with terminal := some { wire with modes } }
        if modes.control == change.modes.control then outcome
        else
          let complaint := call.complaint (name ++ ": unable to perform all requested operations")
          { outcome with writes := outcome.writes ++ [complaint], status := 1 }

end Supervision.Host
