import Supervision.Output.Sink

/-!
# Output multiplexers

Every line of every process becomes one record on a shared sink: the name of its source padded to
the width of the longest connected name, a bar, the line and a line feed.  A colouring multiplexer
puts the name, lifecycle notices and errors between escape sequences.
-/

namespace Supervision.Output

/-- The colours handed out to processes in the order of their registration. -/
def palette : List UInt8 := [2, 3, 4, 5, 6, 42, 130, 103, 129, 108]

def paletteColor (index : Nat) : UInt8 := palette.getD (index % palette.length) 0

/-- Whose a line is. -/
structure Source where
  name : String
  color : UInt8
  deriving DecidableEq, Repr, Inhabited

/-- The bytes of a line of text that holds ASCII only. -/
def ascii (text : String) : Bytes := Text.Utf8.encode text

def escapeByte : UInt8 := 0x1b

def style (parameters : String) : Bytes := escapeByte :: ascii ("[" ++ parameters ++ "m")

/-- The escape sequence that ends every style. -/
def plain : Bytes := style "0"

/-- The shared output of all processes. -/
structure Multiplexer where
  width : Nat
  colorize : Bool
  sink : Sink
  deriving DecidableEq, Repr, Inhabited

namespace Multiplexer

def start (colorize : Bool) (acceptance : Acceptance) : Multiplexer :=
  ⟨0, colorize, .empty acceptance⟩

/-- Makes the name column wide enough for a source. -/
def connect (output : Multiplexer) (source : Source) : Multiplexer :=
  { output with width := max output.width source.name.utf8ByteSize }

def paddedName (output : Multiplexer) (source : Source) : Bytes :=
  Text.Utf8.encode source.name
    ++ List.replicate (max output.width source.name.utf8ByteSize - source.name.utf8ByteSize) 0x20

/-- Content between a style and its end. -/
def styled (parameters : String) (content : Bytes) : Bytes := style parameters ++ content ++ plain

def record (output : Multiplexer) (source : Source) (line : Bytes) : Bytes :=
  let label := output.paddedName source
  let label :=
    if output.colorize then styled ("1;38;5;" ++ toString source.color.toNat) label else label
  label ++ ascii " | " ++ line ++ [0x0a]

/-- The line of a lifecycle notice, which a colouring multiplexer shows in bold. -/
def statusLine (output : Multiplexer) (message : String) : Bytes :=
  let content := Text.Utf8.encode message
  if output.colorize then styled "1" content else content

/-- The line of an error, which a colouring multiplexer shows in red. -/
def errorLine (output : Multiplexer) (message : String) : Bytes :=
  let content := Text.Utf8.encode message
  if output.colorize then styled "0;31" content else content

def writeLine (output : Multiplexer) (source : Source) (line : Bytes) : Multiplexer :=
  { output with sink := output.sink.writeAll (output.record source line) }

def writeStatus (output : Multiplexer) (source : Source) (message : String) : Multiplexer :=
  output.writeLine source (output.statusLine message)

def writeError (output : Multiplexer) (source : Source) (message : String) : Multiplexer :=
  output.writeLine source (output.errorLine message)

/-- The multiplexer as a diagnostic shows it. -/
def describe (output : Multiplexer) : String :=
  "OutputMultiplexer \x7b width: " ++ toString output.width ++ ", colorize: "
    ++ toString output.colorize ++ ", sink: \"<Write>\" \x7d"

end Multiplexer

end Supervision.Output
