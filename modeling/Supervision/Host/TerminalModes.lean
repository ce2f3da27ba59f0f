import Supervision.Text.Utf8

/-!
# Modes of a terminal

How a terminal works: four words of switches, the keys that mean something, and its size.  What is
written to it passes through the switches for output; the other modes can only be asked for and
changed.
-/

namespace Supervision.Host

/-- The word that a switch is in. -/
inductive SwitchGroup
  | control
  | input
  | output
  | «local»
  deriving DecidableEq, Repr

/-- A switch, or one setting of several bits.  It is usually on or off, or neither counts; it may be
turned off by its name with a minus; and it may be another name for a switch, which no list shows. -/
structure Switch where
  name : String
  group : SwitchGroup
  bits : UInt32
  mask : UInt32
  usual : Option Bool
  reversible : Bool
  listed : Bool
  deriving Repr

namespace Switch

/-- A switch of one bit that can be turned off. -/
def single (name : String) (group : SwitchGroup) (bits : UInt32) (usual : Option Bool) : Switch :=
  ⟨name, group, bits, bits, usual, true, true⟩

/-- One setting among those that share several bits. -/
def choice (name : String) (group : SwitchGroup) (bits mask : UInt32) (usual : Option Bool) :
    Switch :=
  ⟨name, group, bits, mask, usual, false, true⟩

/-- Another name for a switch. -/
def another (name : String) (group : SwitchGroup) (bits : UInt32) : Switch :=
  ⟨name, group, bits, bits, none, true, false⟩

/-- All switches, in the order in which they are listed. -/
def all : List Switch :=
  [single "parenb" .control 0x100 (some false), single "parodd" .control 0x200 none,
    single "cmspar" .control 0x40000000 none, choice "cs5" .control 0 0x30 none,
    choice "cs6" .control 0x10 0x30 none, choice "cs7" .control 0x20 0x30 none,
    choice "cs8" .control 0x30 0x30 none, single "hupcl" .control 0x400 none,
    another "hup" .control 0x400, single "cstopb" .control 0x40 none,
    single "cread" .control 0x80 (some true), single "clocal" .control 0x800 none,
    single "crtscts" .control 0x80000000 none,
    single "ignbrk" .input 1 (some false), single "brkint" .input 2 (some true),
    single "ignpar" .input 4 none, single "parmrk" .input 8 none, single "inpck" .input 0x10 none,
    single "istrip" .input 0x20 none, single "inlcr" .input 0x40 (some false),
    single "igncr" .input 0x80 (some false), single "icrnl" .input 0x100 (some true),
    single "ixon" .input 0x400 none, single "ixoff" .input 0x1000 (some false),
    another "tandem" .input 0x1000, single "iuclc" .input 0x200 (some false),
    single "ixany" .input 0x800 (some false), single "imaxbel" .input 0x2000 (some true),
    single "iutf8" .input 0x4000 (some false),
    single "opost" .output 1 (some true), single "olcuc" .output 2 (some false),
    single "ocrnl" .output 8 (some false), single "onlcr" .output 4 (some true),
    single "onocr" .output 0x10 (some false), single "onlret" .output 0x20 (some false),
    single "ofill" .output 0x40 (some false), single "ofdel" .output 0x80 (some false),
    choice "nl1" .output 0x100 0x100 (some false), choice "nl0" .output 0 0x100 (some true),
    choice "cr3" .output 0x600 0x600 (some false), choice "cr2" .output 0x400 0x600 (some false),
    choice "cr1" .output 0x200 0x600 (some false), choice "cr0" .output 0 0x600 (some true),
    choice "tab3" .output 0x1800 0x1800 (some false),
    choice "tab2" .output 0x1000 0x1800 (some false),
    choice "tab1" .output 0x800 0x1800 (some false), choice "tab0" .output 0 0x1800 (some true),
    choice "bs1" .output 0x2000 0x2000 (some false), choice "bs0" .output 0 0x2000 (some true),
    choice "vt1" .output 0x4000 0x4000 (some false), choice "vt0" .output 0 0x4000 (some true),
    choice "ff1" .output 0x8000 0x8000 (some false), choice "ff0" .output 0 0x8000 (some true),
    single "isig" .local 1 (some true), single "icanon" .local 2 (some true),
    single "iexten" .local 0x8000 (some true), single "echo" .local 8 (some true),
    single "echoe" .local 0x10 (some true), another "crterase" .local 0x10,
    single "echok" .local 0x20 (some true), single "echonl" .local 0x40 (some false),
    single "noflsh" .local 0x80 (some false), single "xcase" .local 4 (some false),
    single "tostop" .local 0x100 (some false), single "echoprt" .local 0x400 (some false),
    another "prterase" .local 0x400, single "echoctl" .local 0x200 (some true),
    another "ctlecho" .local 0x200, single "echoke" .local 0x800 (some true),
    another "crtkill" .local 0x800, single "flusho" .local 0x1000 (some false),
    single "extproc" .local 0x10000 (some false)]

end Switch

/-- A key that means something: its name, where its byte is kept, and what it usually is. -/
structure TerminalKey where
  name : String
  index : Nat
  usual : UInt8
  deriving Repr

namespace TerminalKey

/-- All keys, in the order in which they are listed. -/
def all : List TerminalKey :=
  [⟨"intr", 0, 3⟩, ⟨"quit", 1, 28⟩, ⟨"erase", 2, 127⟩, ⟨"kill", 3, 21⟩, ⟨"eof", 4, 4⟩, ⟨"eol", 11, 0⟩,
    ⟨"eol2", 16, 0⟩, ⟨"swtch", 7, 0⟩, ⟨"start", 8, 17⟩, ⟨"stop", 9, 19⟩, ⟨"susp", 10, 26⟩,
    ⟨"rprnt", 12, 18⟩, ⟨"werase", 14, 23⟩, ⟨"lnext", 15, 22⟩, ⟨"discard", 13, 15⟩]

/-- Where the least number of bytes of a read and its time limit are kept. -/
def leastIndex : Nat := 6

def timeIndex : Nat := 5

end TerminalKey

/-- How a terminal works, and the column that output has come to. -/
structure TerminalModes where
  control : UInt32
  input : UInt32
  output : UInt32
  «local» : UInt32
  keys : List UInt8
  line : Nat
  rows : Nat
  columns : Nat
  place : Nat
  deriving Repr

namespace TerminalModes

/-- A terminal as it is made. -/
def fresh : TerminalModes :=
  { control := 0xbf
    input := 0x500
    output := 5
    «local» := 0x8a3b
    keys := [3, 28, 127, 21, 4, 0, 1, 0, 17, 19, 26, 0, 18, 15, 23, 22] ++ List.replicate 16 0
    line := 0
    rows := 0
    columns := 0
    place := 0 }

def word (modes : TerminalModes) : SwitchGroup → UInt32
  | .control => modes.control
  | .input => modes.input
  | .output => modes.output
  | .local => modes.local

def change (modes : TerminalModes) (group : SwitchGroup) (act : UInt32 → UInt32) : TerminalModes :=
  match group with
  | .control => { modes with control := act modes.control }
  | .input => { modes with input := act modes.input }
  | .output => { modes with output := act modes.output }
  | .local => { modes with «local» := act modes.local }

/-- Puts bits in the place of those that a mask covers. -/
def put (modes : TerminalModes) (group : SwitchGroup) (bits mask : UInt32) : TerminalModes :=
  modes.change group fun word => (word &&& (~~~mask)) ||| bits

def isOn (modes : TerminalModes) (switch : Switch) : Bool :=
  modes.word switch.group &&& switch.mask == switch.bits

def turn (modes : TerminalModes) (switch : Switch) (on : Bool) : TerminalModes :=
  modes.put switch.group (if on then switch.bits else 0) switch.mask

def key (modes : TerminalModes) (index : Nat) : UInt8 := modes.keys[index]?.getD 0

def setKey (modes : TerminalModes) (index : Nat) (byte : UInt8) : TerminalModes :=
  { modes with keys := modes.keys.set index byte }

/-- Has the output a switch on?  Without processing, no other switch for output counts. -/
def processes (modes : TerminalModes) (bit : UInt32) : Bool :=
  modes.output &&& 1 != 0 && modes.output &&& bit != 0

/-- What a terminal makes of one written byte, and the column after it. -/
def processed (modes : TerminalModes) (place : Nat) (byte : UInt8) : Bytes × Nat :=
  let lineFeed (place : Nat) : Bytes × Nat :=
    ([0x0a], if modes.processes 0x20 then 0 else place)
  if byte = 0x0a then
    if modes.processes 4 then ([0x0d, 0x0a], 0) else lineFeed place
  else if byte = 0x0d then
    if modes.processes 0x10 && place = 0 then ([], place)
    else if modes.processes 8 then lineFeed place
    else ([0x0d], 0)
  else if byte = 0x09 then
    let width := 8 - place % 8
    (if modes.output &&& 0x1800 == 0x1800 then List.replicate width 0x20 else [0x09], place + width)
  else if byte = 0x08 then ([byte], place - 1)
  else if byte < 0x20 || byte = 0x7f then ([byte], place)
  else
    let isSmall := 0x61 ≤ byte && byte ≤ 0x7a
    ([if modes.processes 2 && isSmall then byte - 0x20 else byte], place + 1)

/-- What a terminal makes of written bytes. -/
def write (modes : TerminalModes) (bytes : Bytes) : Bytes × TerminalModes :=
  if modes.output &&& 1 == 0 then (bytes, modes)
  else
    let (pieces, place) := bytes.foldl
      (fun (pieces, place) byte =>
        let (piece, place) := modes.processed place byte
        (piece :: pieces, place)) ([], modes.place)
    (pieces.reverse.flatten, { modes with place })

end TerminalModes

end Supervision.Host
