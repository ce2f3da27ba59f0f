import Supervision.Json.Value
import Supervision.Json.Typed
import Supervision.Proofs.Json.Reads
import Supervision.Proofs.Text.Encoding

/-!
# Strings and integers as they are written

A written string is read back whatever characters it holds: each byte is either written as itself or
as an escape that stands for it.  A written integer is read back if it fits the type asked for and
nothing follows that could be part of a number.
-/

namespace Supervision.Json

/-! ## Strings -/

theorem hexValue?_hexByte {digit : Nat} (h : digit < 16) : hexValue? (hexByte digit) = some digit := by
  have hall : ∀ digit < 16, hexValue? (hexByte digit) = some digit := by decide
  exact hall digit h

/-- A control is spelled by four digits, of which the last two count. -/
theorem readEscape_control {byte : UInt8} (h : byte < 0x20) (more : Bytes) :
    readEscape (0x75 :: 0x30 :: 0x30 :: hexByte (byte.toNat / 16) :: hexByte (byte.toNat % 16) :: more) =
      .char byte.toNat 5 := by
  have hbyte : byte.toNat < 32 := UInt8.lt_iff_toNat_lt.mp h
  have hquad : hexQuad 1 (0x30 :: 0x30 :: hexByte (byte.toNat / 16) :: hexByte (byte.toNat % 16) :: more) =
      .ok byte.toNat := by
    simp only [hexQuad, hexValue?_hexByte (show byte.toNat / 16 < 16 by omega),
      hexValue?_hexByte (show byte.toNat % 16 < 16 by omega)]
    rw [show hexValue? 0x30 = some 0 from rfl]
    simp only [Except.ok.injEq]
    omega
  have hlow : isLowSurrogate byte.toNat = false := by
    simp only [isLowSurrogate, Bool.and_eq_false_iff, decide_eq_false_iff_not]
    omega
  have hhigh : isHighSurrogate byte.toNat = false := by
    simp only [isHighSurrogate, Bool.and_eq_false_iff, decide_eq_false_iff_not]
    omega
  simp [readEscape, shortEscape?, hquad, hlow, hhigh]

/-- A byte is written as itself, or as a backslash and what is read as that byte. -/
theorem escapeByte_cases (byte : UInt8) :
    (escapeByte byte = [byte] ∧ byte ≠ 0x22 ∧ byte ≠ 0x5c ∧ ¬byte < 0x20) ∨
      ∃ tail, escapeByte byte = 0x5c :: tail ∧ byte.toNat < 0x80 ∧
        ∀ more, readEscape (tail ++ more) = .char byte.toNat tail.length := by
  unfold escapeByte
  split
  · next h => exact .inr ⟨[0x22], rfl, by rw [h]; decide, fun more ↦ by rw [h]; rfl⟩
  split
  · next h => exact .inr ⟨[0x5c], rfl, by rw [h]; decide, fun more ↦ by rw [h]; rfl⟩
  split
  · next h => exact .inr ⟨[0x62], rfl, by rw [h]; decide, fun more ↦ by rw [h]; rfl⟩
  split
  · next h => exact .inr ⟨[0x66], rfl, by rw [h]; decide, fun more ↦ by rw [h]; rfl⟩
  split
  · next h => exact .inr ⟨[0x6e], rfl, by rw [h]; decide, fun more ↦ by rw [h]; rfl⟩
  split
  · next h => exact .inr ⟨[0x72], rfl, by rw [h]; decide, fun more ↦ by rw [h]; rfl⟩
  split
  · next h => exact .inr ⟨[0x74], rfl, by rw [h]; decide, fun more ↦ by rw [h]; rfl⟩
  split
  · next h =>
    have hbyte : byte.toNat < 32 := UInt8.lt_iff_toNat_lt.mp h
    exact .inr ⟨_, rfl, by omega, readEscape_control h⟩
  · next hquote hbackslash _ _ _ _ _ hcontrol => exact .inl ⟨rfl, hquote, hbackslash, hcontrol⟩

section

variable {taken : Bytes} {cursor : Cursor} {byte : UInt8} {rest : Bytes}

theorem stringInto_quote (h : cursor.rest = 0x22 :: rest) :
    stringInto taken cursor = .ok taken.reverse cursor.advance := by
  rw [stringInto]
  split
  · simp_all
  · next heq =>
    rw [h] at heq
    cases heq
    rw [if_pos rfl]

theorem stringInto_plain (h : cursor.rest = byte :: rest) (quote : byte ≠ 0x22)
    (backslash : byte ≠ 0x5c) (control : ¬byte < 0x20) :
    stringInto taken cursor = stringInto (byte :: taken) cursor.advance := by
  rw [stringInto]
  split
  · simp_all
  · next heq =>
    rw [h] at heq
    cases heq
    rw [if_neg quote, if_neg backslash, if_neg control]

/-- An escape is read as the character that it stands for. -/
theorem stringInto_escape {code length : Nat} (h : cursor.rest = 0x5c :: rest)
    (escape : readEscape rest = .char code length) :
    stringInto taken cursor =
      stringInto ((String.utf8EncodeChar (Char.ofNat code)).reverse ++ taken)
        (cursor.advanceBy (length + 1)) := by
  rw [stringInto]
  split
  · simp_all
  · next heq =>
    rw [h] at heq
    cases heq
    rw [if_neg (by decide), if_pos rfl]
    simp only [escape]

/-- Every byte of a string is read back, whether or not it was escaped. -/
theorem stringInto_escapeByte (taken : Bytes) (h : cursor.rest = escapeByte byte ++ rest) :
    ∃ after : Cursor, after.rest = rest ∧
      stringInto taken cursor = stringInto (byte :: taken) after := by
  rcases escapeByte_cases byte with ⟨hself, hquote, hbackslash, hcontrol⟩ |
    ⟨tail, htail, hascii, hescape⟩
  · rw [hself] at h
    exact ⟨cursor.advance, Cursor.rest_advance h, stringInto_plain h hquote hbackslash hcontrol⟩
  · rw [htail] at h
    refine ⟨cursor.advanceBy (tail.length + 1), ?_, ?_⟩
    · rw [Cursor.rest_advanceBy, h, List.cons_append, List.drop_succ_cons, List.drop_left]
    · rw [stringInto_escape h (hescape rest), Text.Utf8.utf8EncodeChar_ofNat hascii]
      rfl

/-- The bytes of a written string are read back one by one. -/
theorem stringInto_flatMap {content : Bytes} (taken : Bytes)
    (h : cursor.rest = content.flatMap escapeByte ++ 0x22 :: rest) :
    ∃ after : Cursor, after.rest = rest ∧
      stringInto taken cursor = .ok (taken.reverse ++ content) after := by
  induction content generalizing taken cursor with
  | nil =>
    refine ⟨cursor.advance, Cursor.rest_advance h, ?_⟩
    rw [stringInto_quote h, List.append_nil]
  | cons byte content ih =>
    rw [List.flatMap_cons, List.append_assoc] at h
    obtain ⟨between, hbetween, hstep⟩ := stringInto_escapeByte taken h
    obtain ⟨after, hafter, hrest⟩ := ih (byte :: taken) hbetween
    refine ⟨after, hafter, ?_⟩
    rw [hstep, hrest, List.reverse_cons, List.append_assoc]
    rfl

end

namespace Reader

variable {α : Type} {follows : Bytes → Prop}

theorem reads_stringBody (text : String) :
    stringBody.Reads follows ((Text.Utf8.encode text).flatMap escapeByte ++ [0x22]) text := by
  intro cursor rest hcursor _
  rw [List.append_assoc] at hcursor
  obtain ⟨after, hafter, hinto⟩ := stringInto_flatMap [] hcursor
  refine ⟨after, ?_, hafter⟩
  simp only [stringBody, hinto, List.reverse_nil, List.nil_append, Text.Utf8.decode?_encode]

theorem startsWith_writeString (text : String) : StartsWith 0x22 (writeString text) := rfl

/-- A name is a written string. -/
theorem reads_memberName (name : String) : memberName.Reads follows (writeString name) name :=
  .skip_bind (reads_stringBody name)

theorem reads_textWith {expected text : String} {use : String → Reader α} {value : α}
    (h : (use text).Reads follows [] value) :
    (textWith expected use).Reads follows (writeString text) value := by
  apply Reads.placed
  apply Reads.peekToken_cons rfl
  apply Reads.skip_bind
  have hbody := Reads.followed (reads_stringBody text) h
  rwa [List.append_nil] at hbody

/-- A text reads back from its string. -/
theorem reads_text (text : String) : Reader.text.Reads follows (writeString text) text :=
  reads_textWith (.pure text)

end Reader

/-! ## Integers -/

def digitByte (digit : Nat) : UInt8 := 0x30 + digit.toUInt8

theorem isDigit_digitByte {digit : Nat} (h : digit < 10) : isDigit (digitByte digit) = true := by
  have hall : ∀ digit < 10, isDigit (digitByte digit) = true := by decide
  exact hall digit h

theorem digitValue_digitByte {digit : Nat} (h : digit < 10) : digitValue (digitByte digit) = digit := by
  have hall : ∀ digit < 10, digitValue (digitByte digit) = digit := by decide
  exact hall digit h

theorem isGap_of_isDigit {byte : UInt8} (h : isDigit byte = true) : Cursor.isGap byte = false := by
  have hne (other : UInt8) (hother : isDigit other = false) : byte ≠ other := by
    rintro rfl
    rw [h] at hother
    cases hother
  simp [Cursor.isGap, hne 0x20 rfl, hne 0x0a rfl, hne 0x0d rfl, hne 0x09 rfl]

theorem spell_digitChar {digit : Nat} (h : digit < 10) :
    spell (String.singleton digit.digitChar) = [digitByte digit] := by
  have hall : ∀ digit < 10, spell (String.singleton digit.digitChar) = [digitByte digit] := by decide
  exact hall digit h

theorem spell_repr_of_lt {value : Nat} (h : value < 10) : spell value.repr = [digitByte value] := by
  rw [Nat.repr_of_lt h, spell_digitChar h]

theorem spell_repr_of_ge {value : Nat} (h : 10 ≤ value) :
    spell value.repr = spell (value / 10).repr ++ [digitByte (value % 10)] := by
  rw [Nat.repr_of_ge h, spell, Text.Utf8.encode_append, ← spell, ← spell,
    spell_digitChar (Nat.mod_lt value (by decide))]

theorem isDigit_of_mem_spell (value : Nat) : ∀ byte ∈ spell value.repr, isDigit byte = true := by
  induction value using Nat.strongRecOn with
  | ind value ih =>
    intro byte hmem
    by_cases h : value < 10
    · rw [spell_repr_of_lt h, List.mem_singleton] at hmem
      rw [hmem]
      exact isDigit_digitByte h
    · rw [spell_repr_of_ge (Nat.le_of_not_lt h), List.mem_append, List.mem_singleton] at hmem
      rcases hmem with hmem | rfl
      · exact ih (value / 10) (by omega) byte hmem
      · exact isDigit_digitByte (Nat.mod_lt value (by decide))

/-- Only zero begins with the digit zero. -/
theorem spell_repr_cons {value : Nat} (h : 0 < value) :
    ∃ first more, spell value.repr = first :: more ∧ first ≠ 0x30 := by
  induction value using Nat.strongRecOn with
  | ind value ih =>
    by_cases hlt : value < 10
    · have hall : ∀ digit < 10, 0 < digit → digitByte digit ≠ 0x30 := by decide
      exact ⟨digitByte value, [], spell_repr_of_lt hlt, hall value hlt h⟩
    · obtain ⟨first, more, hfirst, hne⟩ := ih (value / 10) (by omega) (by omega)
      refine ⟨first, more ++ [digitByte (value % 10)], ?_, hne⟩
      rw [spell_repr_of_ge (Nat.le_of_not_lt hlt), hfirst, List.cons_append]

/-- A written natural number begins with a digit. -/
theorem spell_repr_startsWith (value : Nat) :
    ∃ first, isDigit first = true ∧ StartsWith first (spell value.repr) := by
  obtain ⟨first, more, hfirst⟩ : ∃ first more, spell value.repr = first :: more := by
    rcases Nat.eq_zero_or_pos value with rfl | hpos
    · exact ⟨0x30, [], rfl⟩
    · obtain ⟨first, more, hfirst, _⟩ := spell_repr_cons hpos
      exact ⟨first, more, hfirst⟩
  have hdigit : isDigit first = true := isDigit_of_mem_spell value first (hfirst ▸ List.mem_cons_self)
  exact ⟨first, hdigit, hfirst ▸ startsWith_cons.mpr rfl⟩

/-- The digits of a number that fits a word are all added. -/
theorem addDigits_spell {value : Nat} (fits : value ≤ maxWord) (added : Nat) (more : Bytes) :
    addDigits 0 added (spell value.repr ++ more) =
      addDigits value (added + (spell value.repr).length) more := by
  induction value using Nat.strongRecOn generalizing more with
  | ind value ih =>
    by_cases h : value < 10
    · have hvalue : 0 * 10 + digitValue (digitByte value) = value := by
        rw [digitValue_digitByte h]
        omega
      rw [spell_repr_of_lt h, List.singleton_append, addDigits, hvalue]
      simp only [Nat.not_lt.mpr fits, if_false, List.length_singleton]
    · have hvalue : value / 10 * 10 + digitValue (digitByte (value % 10)) = value := by
        rw [digitValue_digitByte (Nat.mod_lt value (by decide))]
        omega
      rw [spell_repr_of_ge (Nat.le_of_not_lt h), List.append_assoc,
        ih (value / 10) (by omega) (by omega), List.singleton_append, addDigits, hvalue]
      simp only [Nat.not_lt.mpr fits, if_false, List.length_append, List.length_singleton,
        Nat.add_assoc]

/-- A value may end before a comma, a closing bracket or the end of the document. -/
def Ends (rest : Bytes) : Prop :=
  rest.head? = none ∨ StartsWith 0x2c rest ∨ StartsWith 0x5d rest ∨ StartsWith 0x7d rest

namespace Ends

theorem nil : Ends [] := .inl rfl

theorem of_comma {rest : Bytes} (h : StartsWith 0x2c rest) : Ends rest := .inr (.inl h)

theorem of_bracket {rest : Bytes} (h : StartsWith 0x5d rest) : Ends rest := .inr (.inr (.inl h))

theorem of_brace {rest : Bytes} (h : StartsWith 0x7d rest) : Ends rest := .inr (.inr (.inr h))

/-- Where a value may end no digit follows. -/
theorem takeWhile_isDigit {rest : Bytes} (h : Ends rest) : rest.takeWhile isDigit = [] := by
  rcases h with h | h | h | h
  · rw [List.head?_eq_none_iff.mp h]
    rfl
  all_goals
    obtain ⟨more, rfl⟩ := List.head?_eq_some_iff.mp h
    rfl

end Ends

namespace Reader

variable {α : Type}

/-- Looking at a byte takes nothing. -/
theorem Reads.peek {follows : Bytes → Prop} {next : Option UInt8 → Reader α} {text : Bytes} {value : α}
    (h : ∀ rest, follows rest → (next (text ++ rest).head?).Reads follows text value) :
    (Reader.peek >>= next).Reads follows text value := by
  intro cursor rest hcursor hfollows
  have hnext := h rest hfollows cursor rest hcursor hfollows
  rw [← hcursor] at hnext
  exact hnext

/-- All digits up to the end of a number are taken. -/
theorem reads_digits {text : Bytes} (h : ∀ byte ∈ text, isDigit byte = true) :
    digits.Reads Ends text text := by
  intro cursor rest hcursor hends
  have htake : cursor.rest.takeWhile isDigit = text := by
    rw [hcursor, List.takeWhile_append_of_pos h, hends.takeWhile_isDigit, List.append_nil]
  have hdrop : cursor.rest.dropWhile isDigit = rest := by
    have hsplit := List.takeWhile_append_dropWhile (p := isDigit) (l := cursor.rest)
    rw [htake, hcursor] at hsplit
    rw [hcursor]
    exact List.append_cancel_left hsplit
  exact ⟨_, by rw [digits, htake, hdrop], rfl⟩

/-- Where a value ends there is no fraction and no exponent. -/
theorem reads_afterInteger {positive : Bool} {significand : Nat} {value : Number}
    (h : (if positive then pure (.unsigned significand)
      else if significand = 0 || 0x8000000000000000 < significand then
        pure (.floating (-significand.toUInt64.toFloat))
      else pure (.negative (-(significand : Int))) : Reader Number).Reads Ends [] value) :
    (afterInteger positive significand 0).Reads Ends [] value := by
  unfold afterInteger
  apply Reads.peek
  intro rest hends
  rw [List.nil_append]
  rcases hends with hends | hends | hends | hends
  all_goals
    rw [hends]
    exact h

/-- A written natural number is read, after its sign, to its end. -/
theorem reads_number {positive : Bool} {significand : Nat} {value : Number}
    (fits : significand ≤ maxWord)
    (h : (afterInteger positive significand 0).Reads Ends [] value) :
    (number positive).Reads Ends (spell significand.repr) value := by
  unfold number
  apply Reads.peek
  intro rest hends
  rcases Nat.eq_zero_or_pos significand with rfl | hpos
  · change Reads _ Ends [0x30] value
    apply Reads.skip_bind
    apply Reads.peek
    intro rest hends
    rw [List.nil_append]
    rcases hends with hends | hends | hends | hends
    all_goals
      rw [hends]
      exact h
  · obtain ⟨first, more, hfirst, hne⟩ := spell_repr_cons hpos
    have hdigit : isDigit first = true :=
      isDigit_of_mem_spell significand first (hfirst ▸ List.mem_cons_self)
    have hadd := addDigits_spell fits 0 []
    rw [List.append_nil, addDigits, Nat.zero_add] at hadd
    have hdigits : (do
        let run ← digits
        let sum := addDigits 0 0 run
        afterInteger positive sum.1 (run.length - sum.2)).Reads Ends (spell significand.repr) value := by
      rw [← List.append_nil (spell significand.repr)]
      refine Reads.bind (reads_digits (isDigit_of_mem_spell significand)) ?_ fun _ hends ↦ hends
      simp only [hadd, Nat.sub_self]
      exact h
    rw [hfirst] at hdigits ⊢
    simp only [List.cons_append, List.head?_cons]
    rw [if_pos hdigit]
    exact hdigits

/-- What is made of a number once it is read takes nothing more. -/
theorem Reads.then {first : Reader α} {β : Type} {next : α → Reader β} {text : Bytes} {value : α}
    {result : β} (hfirst : first.Reads Ends text value) (hnext : (next value).Reads Ends [] result) :
    (first >>= next).Reads Ends text result := by
  have h := Reads.bind hfirst hnext fun _ hends ↦ hends
  rwa [List.append_nil] at h

/-- An integer is read back where it lies between the bounds and fits the words that numbers are kept
in. -/
theorem reads_integer {expected : String} {least greatest value : Int} (lower : least ≤ value)
    (upper : value ≤ greatest) (wide : value ≤ maxWord) (deep : -0x8000000000000000 ≤ value) :
    (integer expected least greatest).Reads Ends (spell (toString value)) value := by
  unfold integer
  apply Reads.placed
  cases value with
  | ofNat magnitude =>
    change Reads _ Ends (spell magnitude.repr) _
    obtain ⟨first, hdigit, hstarts⟩ := spell_repr_startsWith magnitude
    apply Reads.peekToken first (isGap_of_isDigit hdigit) fun rest _ ↦ hstarts.append rest
    split
    · next heq => cases heq
    · next heq =>
      cases heq
      cases hdigit
    · next heq =>
      cases heq
      rw [if_pos hdigit]
      have hread : (number true).Reads Ends (spell magnitude.repr) (.unsigned magnitude) :=
        reads_number (Int.ofNat_le.mp wide) (reads_afterInteger (.pure _))
      have hupper : (magnitude : Int) ≤ greatest := upper
      refine hread.then ?_
      simp only [if_pos hupper]
      exact .pure _
  | negSucc below =>
    have hspell : spell (toString (Int.negSucc below)) = 0x2d :: spell (below + 1).repr := by
      change spell ("-" ++ (below + 1).repr) = _
      rw [spell, Text.Utf8.encode_append]
      rfl
    rw [hspell]
    apply Reads.peekToken_cons rfl
    apply Reads.skip_bind
    have hbelow : below + 1 ≤ 0x8000000000000000 := by omega
    have hread : (number false).Reads Ends (spell (below + 1).repr) (.negative (Int.negSucc below)) := by
      apply reads_number (by unfold maxWord; omega)
      apply reads_afterInteger
      rw [if_neg Bool.false_ne_true, if_neg (by simpa using hbelow)]
      exact .pure _
    refine hread.then ?_
    simp only [if_pos lower]
    exact .pure _

end Reader

end Supervision.Json
