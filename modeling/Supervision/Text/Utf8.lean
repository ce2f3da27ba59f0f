/-!
# Text as bytes

The UTF-8 form of a text, the strict way back, and the lenient way back in which every maximal
ill-formed run becomes one replacement character.  Decoding what was encoded gives the text again.
-/

namespace Supervision

/-- A sequence of octets, as files, sockets and terminals carry them. -/
abbrev Bytes := List UInt8

namespace Text.Utf8

/-- The octets of a text. -/
def encode (text : String) : Bytes := text.toByteArray.data.toList

/-- The text that octets spell, if they are well formed. -/
def decode? (bytes : Bytes) : Option String := String.fromUTF8? ⟨bytes.toArray⟩

@[simp]
theorem decode?_encode (text : String) : decode? (encode text) = some text := by
  simp only [decode?, encode, String.fromUTF8?, Array.toArray_toList]
  exact dif_pos text.isValidUTF8

@[simp]
theorem encode_append (text other : String) :
    encode (text ++ other) = encode text ++ encode other := by
  simp [encode]

/-- Octets that continue a character begun before. -/
def isContinuation (byte : UInt8) : Bool := 0x80 ≤ byte && byte ≤ 0xbf

/-- The range allowed for the second octet after a given first, and how many follow in all; `none`
for an octet that begins no character. -/
def afterLead (lead : UInt8) : Option (UInt8 × UInt8 × Nat) :=
  if 0xc2 ≤ lead && lead ≤ 0xdf then some (0x80, 0xbf, 1)
  else if lead == 0xe0 then some (0xa0, 0xbf, 2)
  else if lead == 0xed then some (0x80, 0x9f, 2)
  else if 0xe1 ≤ lead && lead ≤ 0xef then some (0x80, 0xbf, 2)
  else if lead == 0xf0 then some (0x90, 0xbf, 3)
  else if 0xf1 ≤ lead && lead ≤ 0xf3 then some (0x80, 0xbf, 3)
  else if lead == 0xf4 then some (0x80, 0x8f, 3)
  else none

/-- How many octets after the lead belong to the same character or the same ill-formed run, and
whether the character is complete. -/
def runAfter (lead : UInt8) (rest : Bytes) : Nat × Bool :=
  match afterLead lead, rest with
  | none, _ => (0, false)
  | some _, [] => (0, false)
  | some (low, high, count), second :: more =>
    if low ≤ second && second ≤ high then
      let taken := 1 + ((more.take (count - 1)).takeWhile isContinuation).length
      (taken, taken == count)
    else (0, false)

def assemble (lead : UInt8) (following : Bytes) : Char :=
  let high := match following.length with
    | 0 => lead.toNat
    | 1 => lead.toNat % 32
    | 2 => lead.toNat % 16
    | _ => lead.toNat % 8
  Char.ofNat (following.foldl (fun code byte => code * 64 + byte.toNat % 64) high)

def replacement : Char := Char.ofNat 0xfffd

/-- Characters of a byte sequence, newest first, with the replacement for what is ill formed. -/
def lenientInto (decoded : List Char) : Bytes → List Char
  | [] => decoded
  | lead :: rest =>
    if lead < 0x80 then lenientInto (Char.ofNat lead.toNat :: decoded) rest
    else
      let (taken, complete) := runAfter lead rest
      let char := if complete then assemble lead (rest.take taken) else replacement
      lenientInto (char :: decoded) (rest.drop taken)
termination_by bytes => bytes.length
decreasing_by all_goals (simp only [List.length_drop, List.length_cons]; omega)

/-- How many octets come before the first that is ill formed, added to those counted already. -/
def wellFormedLength (counted : Nat) : Bytes → Nat
  | [] => counted
  | lead :: rest =>
    if lead < 0x80 then wellFormedLength (counted + 1) rest
    else
      let (taken, complete) := runAfter lead rest
      if complete then wellFormedLength (counted + 1 + taken) (rest.drop taken) else counted
termination_by bytes => bytes.length
decreasing_by all_goals (simp only [List.length_drop, List.length_cons]; omega)

/-- The text of a byte sequence, whatever it holds. -/
def decodeLenient (bytes : Bytes) : String :=
  match decode? bytes with
  | some text => text
  | none => String.ofList (lenientInto [] bytes).reverse

end Text.Utf8

end Supervision
