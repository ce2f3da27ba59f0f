/-!
# Texts as the shell shows them

What the shell lists is written so that it can be read back: a text stands between single quotes,
except for the single quotes in it, which stand between double quotes.
-/

namespace Supervision.Shell

def singleQuote : Char := Char.ofNat 0x27

/-- A text as the shell lists it. -/
def quoted (text : String) : String :=
  let chars := text.toList
  let isQuote (char : Char) : Bool := char == singleQuote
  let between (mark : Char) (run : List Char) : String := String.ofList (mark :: run ++ [mark])
  let runs := chars.splitBy fun first second => isQuote first == isQuote second
  (if chars.head?.all isQuote then between singleQuote [] else "")
    ++ String.join (runs.map fun run =>
      if run.all isQuote then between '"' run else between singleQuote run)

end Supervision.Shell
