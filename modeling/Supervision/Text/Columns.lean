import Supervision.Text.Width

/-!
# Terminal columns

How many columns a text takes in a terminal.  Most characters count for themselves; some count
otherwise because of what follows them: pictures joined into one, flags, letters that share one
form, and characters whose form a selector behind them chooses.  A text is therefore read from its
end, and each character is counted in the light of what stands behind it.
-/

namespace Supervision.Text

/-- What the characters behind a place may join with. -/
inductive Follower
  | other
  | tone
  | flag
  | flags
  | picture
  | joinedPicture
  | joinedKeycap
  | joinedFlag
  | joinedFlagEven
  | joinedFlagOdd
  | tagEnd
  | tagLetters (count : Nat)
  | tagDigits (count : Nat)
  | alef
  | lamed
  | ya
  | vowelYa
  | tifinagh
  | joinedTifinagh
  | lisuTone
  | orkhonI
  | coengLetter
  | vowelE
  | vowelAi
  deriving DecidableEq, Repr

/-- What stands behind a place: what may be joined with, whether a joiner stands before it, and the
forms that selectors before it ask for. -/
structure Following where
  follower : Follower
  joiner : Bool
  asPicture : Bool
  asSign : Bool
  asQuote : Bool
  deriving DecidableEq, Repr

/-- What stands behind a place, without joiners and selectors. -/
def Follower.bare (follower : Follower) : Following := ⟨follower, false, false, false, false⟩

/-- A letter that keeps what selectors ask for. -/
def Follower.isLetter : Follower → Bool
  | .alef | .lamed | .ya | .vowelYa | .tifinagh | .joinedTifinagh | .lisuTone | .orkhonI
  | .coengLetter => true
  | _ => false

/-- A letter that joins across characters that are not drawn. -/
def Follower.joinsAcross (follower : Follower) : Bool :=
  follower.isLetter && follower != .alef

/-- A picture, or a keycap of one, that was joined to what comes before. -/
def Follower.isJoinedPicture : Follower → Bool
  | .joinedPicture | .joinedKeycap => true
  | _ => false

/-- After a selector of the form as a picture. -/
def Following.selectPicture (following : Following) : Following :=
  if following.follower.isLetter || following.follower.isJoinedPicture then
    { following with asPicture := true }
  else { Follower.other.bare with asPicture := true }

/-- After a selector of the form as a sign. -/
def Following.selectSign (following : Following) : Following :=
  if following.follower.isLetter then { following with asSign := true }
  else { Follower.other.bare with asSign := true }

/-- After a selector of the wide form of a quotation mark. -/
def Following.selectQuote (following : Following) : Following :=
  if following.follower.isLetter then { following with asQuote := true }
  else { Follower.other.bare with asQuote := true }

/-- Once it is known that no picture was selected. -/
def Following.dropPicture (following : Following) : Following :=
  if following.follower.isLetter then { following with asPicture := false }
  else Follower.other.bare

def isBetween (low high code : Nat) : Bool := low ≤ code && code ≤ high

/-- The letters lam of the Arabic script, which take an alef into their form. -/
def isLam (code : Nat) : Bool :=
  code == 0x644 || isBetween 0x6b5 0x6b8 code || code == 0x76a || code == 0x8a6 || code == 0x8c7

/-- The letters alef of the Arabic script. -/
def isAlef (code : Nat) : Bool :=
  [0x622, 0x623, 0x625, 0x627, 0x671, 0x672, 0x673, 0x675, 0x773, 0x774].contains code
    || isBetween 0x870 0x882 code

/-- The letters that are written below the one before a coeng sign. -/
def isCoengLetter (code : Nat) : Bool :=
  isBetween 0x1780 0x1782 code || isBetween 0x1784 0x1787 code || isBetween 0x1789 0x178c code
    || isBetween 0x178e 0x1793 code || isBetween 0x1795 0x1798 code
    || isBetween 0x179b 0x179d code
    || [0x17a0, 0x17a2, 0x17a7, 0x17ab, 0x17ac, 0x17af].contains code

/-- The consonants of Tifinagh, two of which share one form. -/
def isTifinagh (code : Nat) : Bool := isBetween 0x2d31 0x2d65 code || code == 0x2d6f

def isFlagLetter (code : Nat) : Bool := isBetween 0x1f1e6 0x1f1ff code

def isTone (code : Nat) : Bool := isBetween 0x1f3fb 0x1f3ff code

/-- What a character is for those before it, apart from selectors. -/
def Follower.ofChar (char : Char) : Follower :=
  let code := char.toNat
  if code < 0x5dc then if isPicture char then .picture else .other
  else if code == 0x5dc then .lamed
  else if isAlef code then .alef
  else if isCoengLetter code then .coengLetter
  else if code == 0x1a10 then .ya
  else if isTifinagh code then .tifinagh
  else if isBetween 0xa4fc 0xa4fd code then .lisuTone
  else if code == 0x10c03 then .orkhonI
  else if code == 0x16d67 then .vowelE
  else if code == 0x16d68 then .vowelAi
  else if isFlagLetter code then .flag
  else if isTone code then .tone
  else if isPicture char then .picture
  else .other

/-- The mark of a lower-case letter in a flag. -/
def isTagLetter (code : Nat) : Bool := isBetween 0xe0061 0xe007a code

/-- The mark of a digit in a flag. -/
def isTagDigit (code : Nat) : Bool := isBetween 0xe0030 0xe0039 code

/-- What a character adds by joining with what follows it, if it does. -/
def joins? (following : Following) (char : Char) : Option (Int × Follower) :=
  let code := char.toNat
  let found (condition : Bool) (added : Int) (follower : Follower) : Option (Int × Follower) :=
    if condition then some (added, follower) else none
  match following.follower with
  | .alef =>
    if isLam code then some (0, .other) else found (isTransparent char) 0 .alef
  | .lamed => found (following.joiner && code == 0x5d0) 0 .other
  | .coengLetter => found (code == 0x17d2) (-1) .other
  | .ya => found (following.joiner && code == 0x1a17) 0 .vowelYa
  | .vowelYa => found (code == 0x1a15) 0 .other
  | .tifinagh =>
    if code == 0x2d7f then some (1, .joinedTifinagh)
    else found (following.joiner && isTifinagh code) 0 .other
  | .joinedTifinagh => found (isTifinagh code) (-1) .other
  | .lisuTone => found (isBetween 0xa4f8 0xa4fb code) 0 .other
  | .orkhonI => found (following.joiner && code == 0x10c32) 0 .other
  | .tone =>
    if code == 0x200d then some (0, .joinedPicture) else found (takesTone char) 0 .picture
  | .flag => found (isFlagLetter code) 1 .flags
  | .flags =>
    if code == 0x200d then some (0, .joinedPicture) else found (isFlagLetter code) 1 .flags
  | .picture => found (code == 0x200d) 0 .joinedPicture
  | .joinedPicture =>
    if code == 0x20e3 then some (0, .joinedKeycap)
    else if isFlagLetter code then some (1, .joinedFlag)
    else if isTone code then some (0, .tone)
    else if code == 0xe007f then some (0, .tagEnd)
    else found (isPicture char) 0 .picture
  | .joinedFlag => found (isFlagLetter code) (-1) .joinedFlagEven
  | .joinedFlagOdd =>
    if code == 0x200d then some (0, .joinedPicture)
    else found (isFlagLetter code) (-1) .joinedFlagEven
  | .joinedFlagEven =>
    if code == 0x200d then some (0, .joinedPicture)
    else found (isFlagLetter code) 3 .joinedFlagOdd
  | .tagEnd =>
    if isTagLetter code then some (0, .tagLetters 1) else found (isTagDigit code) 0 (.tagDigits 1)
  | .tagLetters count =>
    if isTagLetter code then found (count < 6) 0 (.tagLetters (count + 1))
    else if isTagDigit code then found (count < 5) 0 (.tagDigits 1)
    else found (code == 0x1f3f4 && 3 ≤ count) 0 .picture
  | .tagDigits count =>
    if isTagDigit code then found (count < 3) 0 (.tagDigits (count + 1))
    else found (code == 0x1f3f4 && count == 3) 0 .picture
  | .vowelE =>
    if code == 0x16d67 then some (0, .vowelAi)
    else if code == 0x16d68 then some (1, .vowelE)
    else found (code == 0x16d63 || code == 0x16d69) 0 .other
  | .vowelAi => found (code == 0x16d63) 0 .other
  | .joinedKeycap | .other => none

/-- Characters that are not drawn and across which most letters join. -/
def isJoinedAcross (code : Nat) : Bool :=
  [0x34f, 0x17b4, 0x17b5, 0x180b, 0x180c, 0x180d, 0x180f, 0x200d].contains code
    || isBetween 0xfe00 0xfe0f code || isBetween 0xe0100 0xe01ef code

/-- The quotation marks that have a wide form. -/
def hasQuoteForm (code : Nat) : Bool := [0x2018, 0x2019, 0x201c, 0x201d].contains code

/-- What a character adds where no form was selected. -/
def addPlain (following : Following) (char : Char) : Int × Following :=
  let alone := ((charColumns char : Int), (Follower.ofChar char).bare)
  if following.follower.joinsAcross && char.toNat == 0x200d then
    (0, { following with joiner := true })
  else if following.follower.joinsAcross && isJoinedAcross char.toNat then (0, following)
  else if following.asQuote then alone
  else match joins? following char with
  | some (added, follower) => (added, follower.bare)
  | none => alone

/-- What a character adds to the columns of what follows it, and what the two together are for
those before them. -/
def addColumns (following : Following) (char : Char) : Int × Following :=
  if following.asPicture && hasPictureForm char then
    (if following.follower.isJoinedPicture then 0 else 2, Follower.picture.bare)
  else
    let following := if following.asPicture then following.dropPicture else following
    let code := char.toNat
    if code ≤ 0xa0 then (1, Follower.other.bare)
    else if code == 0xfe0f then (0, following.selectPicture)
    else if code == 0xfe0e then (0, following.selectSign)
    else if code == 0xfe01 then (0, following.selectQuote)
    else if following.asSign then
      if hasNarrowForm char then (1, Follower.other.bare)
      else addPlain { following with asSign := false } char
    else if following.asQuote then
      if hasQuoteForm code then (2, Follower.other.bare)
      else addPlain { following with asQuote := false } char
    else addPlain following char

/-- The columns of a text without line breaks. -/
def columns (text : String) : Nat :=
  (text.toList.foldr
    (fun char (sum, following) =>
      let (added, following) := addColumns following char
      (sum + added, following))
    ((0 : Int), Follower.other.bare)).1.toNat

end Supervision.Text
