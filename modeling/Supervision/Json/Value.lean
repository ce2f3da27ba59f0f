import Supervision.Json.Text

/-!
# Values of JSON documents

Documents as values, written compactly or with one member to a line.
-/

namespace Supervision

/-- A document.  Members stay in the order given. -/
inductive Json
  | null
  | number (value : Int)
  | text (value : String)
  | list (elements : List Json)
  | object (members : List (String × Json))
  deriving Repr, Inhabited

namespace Json

/-- The bytes of a text that holds ASCII only. -/
def spell (text : String) : Bytes := Text.Utf8.encode text

/-- The bytes between parts. -/
def separated (separator : Bytes) : List Bytes → Bytes
  | [] => []
  | [only] => only
  | first :: rest => first ++ separator ++ separated separator rest

mutual

/-- A document without any blanks. -/
def compact : Json → Bytes
  | null => spell "null"
  | number value => spell (toString value)
  | text value => writeString value
  | list elements => 0x5b :: separated [0x2c] (compactElements elements) ++ [0x5d]
  | object members => 0x7b :: separated [0x2c] (compactMembers members) ++ [0x7d]

def compactElements : List Json → List Bytes
  | [] => []
  | element :: rest => compact element :: compactElements rest

def compactMembers : List (String × Json) → List Bytes
  | [] => []
  | (name, value) :: rest => (writeString name ++ 0x3a :: compact value) :: compactMembers rest

end

/-- A line break and two blanks for each level. -/
def lineBreak (level : Nat) : Bytes := 0x0a :: List.replicate (2 * level) 0x20

/-- Parts in brackets, each on a line of its own; nothing between the brackets if there are none. -/
def bracketed (level : Nat) (left right : UInt8) (parts : List Bytes) : Bytes :=
  if parts.isEmpty then [left, right]
  else
    left :: lineBreak (level + 1) ++ separated (0x2c :: lineBreak (level + 1)) parts
      ++ lineBreak level ++ [right]

mutual

/-- A document with each element and member on a line of its own. -/
def pretty (level : Nat) : Json → Bytes
  | null => spell "null"
  | number value => spell (toString value)
  | text value => writeString value
  | list elements => bracketed level 0x5b 0x5d (prettyElements (level + 1) elements)
  | object members => bracketed level 0x7b 0x7d (prettyMembers (level + 1) members)

def prettyElements (level : Nat) : List Json → List Bytes
  | [] => []
  | element :: rest => pretty level element :: prettyElements level rest

def prettyMembers (level : Nat) : List (String × Json) → List Bytes
  | [] => []
  | (name, value) :: rest =>
    (writeString name ++ 0x3a :: 0x20 :: pretty level value) :: prettyMembers level rest

end

/-- Adds a member to members in the order of their names. -/
def insertMember (name : String) (value : Json) : List (String × Json) → List (String × Json)
  | [] => [(name, value)]
  | member :: rest =>
    if name < member.1 then (name, value) :: member :: rest
    else member :: insertMember name value rest

mutual

/-- A document with all members in the order of their names. -/
def sorted : Json → Json
  | list elements => list (sortedElements elements)
  | object members => object (sortedMembers members)
  | scalar => scalar

def sortedElements : List Json → List Json
  | [] => []
  | element :: rest => sorted element :: sortedElements rest

def sortedMembers : List (String × Json) → List (String × Json)
  | [] => []
  | (name, value) :: rest => insertMember name (sorted value) (sortedMembers rest)

end

end Json

end Supervision
