import Supervision.Host.Replies

/-!
# Masks and limits

The permissions that new files do not get, as a number in base eight or in letters, and the limits
of the system, most of which are not set.
-/

namespace Supervision.Host.Builtin

def maskDigits (mask : Nat) : String :=
  let digits := digitsOf 8 mask
  String.ofList (List.replicate (4 - digits.length) '0') ++ digits

/-- What a mask leaves to the owner, the group and the others. -/
def maskLetters (mask : Nat) : String :=
  let left (shift : Nat) : String :=
    let bits := 7 - mask / Nat.pow 2 shift % 8
    (if bits / 4 = 1 then "r" else "") ++ (if bits / 2 % 2 = 1 then "w" else "")
      ++ (if bits % 2 = 1 then "x" else "")
  "u=" ++ left 6 ++ ",g=" ++ left 3 ++ ",o=" ++ left 0

/-- The permissions that letters stand for, for one class of users. -/
def permissionBits : List Char → Option Nat
  | [] => some 0
  | letter :: rest =>
    let bit : Option Nat := match letter with
      | 'r' => some 4
      | 'w' => some 2
      | 'x' => some 1
      | _ => none
    bit.bind fun bit => (permissionBits rest).map fun bits => bits ||| bit

/-- A mask after a change in letters: classes of users, a sign, and permissions. -/
def changeMask (mask : Nat) (clause : List Char) : Option Nat :=
  let classes := clause.takeWhile fun char => ['u', 'g', 'o', 'a'].contains char
  let shifts : List Nat :=
    if classes.isEmpty || classes.contains 'a' then [6, 3, 0]
    else classes.map fun char => if char = 'u' then 6 else if char = 'g' then 3 else 0
  match clause.drop classes.length with
  | sign :: letters =>
    (permissionBits letters).bind fun bits =>
      let change (mask shift : Nat) : Nat :=
        let old := 7 - mask / Nat.pow 2 shift % 8
        let new := if sign = '=' then bits else if sign = '+' then old ||| bits else old &&& (7 - bits)
        mask - (7 - old) * Nat.pow 2 shift + (7 - new) * Nat.pow 2 shift
      if ['=', '+', '-'].contains sign then some (shifts.foldl change mask) else none
  | [] => none

def setsMask (work : Working) (line : Nat) (arguments : List String) : Working :=
  let mask := work.machine.mask
  let setTo (mask : Nat) : Working :=
    ({ work with machine := { work.machine with mask } } : Working).complete 0
  match leadingLetters ['S'] [] arguments with
  | .error message => abort work line "umask" message
  | .ok (letters, []) =>
    let text := if letters.isEmpty then maskDigits mask else maskLetters mask
    prints work (Text.Utf8.encode (text ++ "\n")) 0
  | .ok (_, text :: _) =>
    let chars := text.toList
    if chars.head?.any Char.isDigit then
      if chars.all fun char => '0' ≤ char && char ≤ '7' then
        setTo (chars.foldl (fun value char => value * 8 + (char.toNat - 48)) 0 % 512)
      else abort work line "umask" ("Illegal number: " ++ text)
    else match (text.splitOn ",").foldlM (fun mask clause => changeMask mask clause.toList) mask with
    | some mask => setTo mask
    | none => abort work line "umask" ("Illegal mode: " ++ text)

/-- The limits by their letters, with what holds of those that are set. -/
def limitValue (letter : Char) : String :=
  match letter with
  | 's' | 'l' => "8192"
  | 'c' | 'r' => "0"
  | 'n' => "1048576"
  | _ => "unlimited"

/-- Shows a limit, or sets it, which nothing depends on. -/
def limits (work : Working) (line : Nat) (arguments : List String) : Working :=
  match leadingLetters "HSatfdscmlpnvwr".toList [] arguments with
  | .error message => abort work line "ulimit" message
  | .ok (letters, []) =>
    let letter := ((letters.filter fun letter => letter != 'H' && letter != 'S').getLast?).getD 'f'
    prints work (Text.Utf8.encode (limitValue letter ++ "\n")) 0
  | .ok (_, _ :: _) => work.complete 0

end Supervision.Host.Builtin
