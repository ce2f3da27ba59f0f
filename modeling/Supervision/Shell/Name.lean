/-!
# Names of variables

A name begins with a letter or an underscore and goes on with letters, digits and underscores; only
the letters of ASCII count.
-/

namespace Supervision.Shell

def isNameStart (char : Char) : Bool := char.isAlpha || char == '_'

def isNameChar (char : Char) : Bool := char.isAlphanum || char == '_'

/-- Can a text be the name of a variable? -/
def isName (text : String) : Bool :=
  text.toList.head?.elim false isNameStart && text.toList.all isNameChar

end Supervision.Shell
