import Supervision.Environment

/-!
# Coloured text

Text between an escape sequence that selects a style and one that ends it.  A sequence inside the
text that ends every style is followed by the style again.
-/

namespace Supervision.Cli

inductive Paint
  | bold
  | dimmed
  | red
  | green
  | yellow
  deriving DecidableEq, Repr

def Paint.parameter : Paint → String
  | bold => "1"
  | dimmed => "2"
  | red => "31"
  | green => "32"
  | yellow => "33"

def Paint.sequence (paint : Paint) : String := "\x1b[" ++ paint.parameter ++ "m"

def endOfStyle : String := "\x1b[0m"

/-- Text in a style, if colours are wanted. -/
def Paint.apply (paint : Paint) (colored : Bool) (text : String) : String :=
  if colored then
    paint.sequence ++ endOfStyle.intercalate
      ((text.splitOn endOfStyle).mapIdx fun index part =>
        if index = 0 then part else paint.sequence ++ part)
      ++ endOfStyle
  else text

/-- Colours on an output that is no terminal are wanted only if they are forced. -/
def wantsColor (env : Environment) : Bool :=
  match env.find? "CLICOLOR_FORCE" with
  | some value => value != "0"
  | none => false

end Supervision.Cli
