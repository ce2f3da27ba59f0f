import Supervision.Proofs.Text.Words
import Supervision.Text.Quoted

/-!
# Quoted texts are told apart

Between its quotes a text is written character by character: as it is, as a backslash and a letter, or
as its code between braces.  Where the writing of one character ends is seen from its beginning, so a
quoted text is that of one text only, and a message that quotes a text loses nothing of it.
-/

namespace Supervision.Text

/-! ## Digits to base sixteen -/

theorem hexDigits_of_lt {number : Nat} (h : number < 16) :
    hexDigits number = [number.digitChar] := Nat.toDigits_of_lt_base h

theorem hexDigits_of_le {number : Nat} (h : 16 ≤ number) :
    hexDigits number = hexDigits (number / 16) ++ [(number % 16).digitChar] :=
  Nat.toDigits_of_base_le (by decide) h

theorem hexDigits_ne_nil (number : Nat) : hexDigits number ≠ [] := Nat.toDigits_ne_nil

theorem digitChar_injective {digit other : Nat} (hdigit : digit < 16) (hother : other < 16)
    (h : digit.digitChar = other.digitChar) : digit = other := by
  have hall : ∀ digit < 16, ∀ other < 16, digit.digitChar = other.digitChar → digit = other := by
    decide
  exact hall digit hdigit other hother h

/-- A number can be told from its digits. -/
theorem hexDigits_injective {number other : Nat} (h : hexDigits number = hexDigits other) :
    number = other := by
  induction number using Nat.strongRecOn generalizing other with
  | ind number ih =>
    rcases Nat.lt_or_ge number 16 with hnumber | hnumber <;>
      rcases Nat.lt_or_ge other 16 with hother | hother
    · rw [hexDigits_of_lt hnumber, hexDigits_of_lt hother, List.singleton_inj] at h
      exact digitChar_injective hnumber hother h
    · rw [hexDigits_of_lt hnumber, hexDigits_of_le hother] at h
      exact absurd (List.append_eq_singleton_iff.mp h.symm) (by simp [hexDigits_ne_nil])
    · rw [hexDigits_of_le hnumber, hexDigits_of_lt hother] at h
      exact absurd (List.append_eq_singleton_iff.mp h) (by simp [hexDigits_ne_nil])
    · rw [hexDigits_of_le hnumber, hexDigits_of_le hother] at h
      obtain ⟨hfront, hlast⟩ := List.append_inj' h rfl
      have hquotient : number / 16 = other / 16 := ih (number / 16) (by omega) hfront
      have hremainder : number % 16 = other % 16 :=
        digitChar_injective (by omega) (by omega) (List.singleton_inj.mp hlast)
      omega

/-- The brace behind a code. -/
def closing : Char := Char.ofNat 0x7d

theorem ne_closing_of_mem_hexDigits {number : Nat} :
    ∀ char ∈ hexDigits number, (char != closing) = true := by
  have hdigit : ∀ digit < 16, (digit.digitChar != closing) = true := by decide
  induction number using Nat.strongRecOn with
  | ind number ih =>
    rcases Nat.lt_or_ge number 16 with hnumber | hnumber
    · rw [hexDigits_of_lt hnumber, List.forall_mem_singleton]
      exact hdigit number hnumber
    · rw [hexDigits_of_le hnumber, List.forall_mem_append, List.forall_mem_singleton]
      exact ⟨ih (number / 16) (by omega), hdigit _ (Nat.mod_lt _ (by decide))⟩

/-! ## Characters -/

/-- The character that a letter stands for behind a backslash. -/
def unescape (letter : Char) : Char :=
  if letter = '0' then Char.ofNat 0
  else if letter = 't' then '\t'
  else if letter = 'r' then '\r'
  else if letter = 'n' then '\n'
  else letter

/-- The ways in which a character is written. -/
inductive Written (char : Char) : List Char → Prop
  | plain : char ≠ '\\' → Written char [char]
  | letter : ∀ letter, letter ≠ 'u' → unescape letter = char → Written char ['\\', letter]
  | code : Written char (['\\', 'u', Char.ofNat 0x7b] ++ hexDigits char.toNat ++ [closing])

theorem written_escapeChar (char : Char) : Written char (escapeChar char) := by
  unfold escapeChar
  split_ifs with hnull htab hreturn hfeed hmark hcode
  · refine .letter '0' (by decide) ?_
    rw [← Char.ofNat_toNat char, beq_iff_eq.mp hnull]
    rfl
  · exact .letter 't' (by decide) (beq_iff_eq.mp htab).symm
  · exact .letter 'r' (by decide) (beq_iff_eq.mp hreturn).symm
  · exact .letter 'n' (by decide) (beq_iff_eq.mp hfeed).symm
  · rw [Bool.or_eq_true, beq_iff_eq, beq_iff_eq] at hmark
    rcases hmark with rfl | rfl
    · exact .letter '"' (by decide) rfl
    · exact .letter '\\' (by decide) rfl
  · exact .code
  · refine .plain ?_
    rintro rfl
    exact hmark rfl

theorem Written.ne_nil {char : Char} {chars : List Char} (h : Written char chars) : chars ≠ [] := by
  cases h <;> simp

/-- What is written of a character is its own, whatever follows. -/
theorem Written.append_inj {char other : Char} {chars others rest more : List Char}
    (hchars : Written char chars) (hothers : Written other others)
    (h : chars ++ rest = others ++ more) : char = other ∧ rest = more := by
  cases hchars with
  | plain hplain =>
    cases hothers with
    | plain => simpa using h
    | letter => exact absurd (List.cons.inj h).1 hplain
    | code => exact absurd (List.cons.inj h).1 hplain
  | letter letter hletter hchar =>
    cases hothers with
    | plain hplain => exact absurd (List.cons.inj h).1.symm hplain
    | letter other _ hother =>
      obtain ⟨-, hletters, hrest⟩ : '\\' = '\\' ∧ letter = other ∧ rest = more := by simpa using h
      exact ⟨by rw [← hchar, ← hother, hletters], hrest⟩
    | code =>
      have hu : letter = 'u' := (List.cons.inj (List.cons.inj h).2).1
      exact absurd hu hletter
  | code =>
    cases hothers with
    | plain hplain => exact absurd (List.cons.inj h).1.symm hplain
    | letter letter hletter =>
      have hu : 'u' = letter := (List.cons.inj (List.cons.inj h).2).1
      exact absurd hu.symm hletter
    | code =>
      have hdigits : hexDigits char.toNat ++ closing :: rest =
          hexDigits other.toNat ++ closing :: more := by simpa using h
      have hclosing (ending : List Char) :
          ∀ next ∈ (closing :: ending).head?, (next != closing) = false := by simp
      obtain ⟨hcode, hrest⟩ := append_inj_of_kind ne_closing_of_mem_hexDigits
        ne_closing_of_mem_hexDigits (hclosing rest) (hclosing more) hdigits
      exact ⟨Char.toNat_inj.mp (hexDigits_injective hcode), (List.cons.inj hrest).2⟩

/-! ## Texts -/

/-- A text can be told from its escaped form, in which every character shows where it ends. -/
theorem flatMap_escapeChar_injective {chars others : List Char}
    (h : chars.flatMap escapeChar = others.flatMap escapeChar) : chars = others := by
  have hnil (char : Char) (rest : List Char) : escapeChar char ++ rest ≠ [] := by
    simp [(written_escapeChar char).ne_nil]
  induction chars generalizing others with
  | nil =>
    cases others with
    | nil => rfl
    | cons other others => exact absurd h.symm (hnil other _)
  | cons char chars ih =>
    cases others with
    | nil => exact absurd h (hnil char _)
    | cons other others =>
      rw [List.flatMap_cons, List.flatMap_cons] at h
      obtain ⟨rfl, hrest⟩ := (written_escapeChar char).append_inj (written_escapeChar other) h
      rw [ih hrest]

/-- A quoted text is that of one text only. -/
theorem quoted_injective {text other : String} (h : quoted text = quoted other) : text = other := by
  have hchars : '"' :: text.toList.flatMap escapeChar ++ ['"'] =
      '"' :: other.toList.flatMap escapeChar ++ ['"'] := String.ofList_injective h
  have hbetween := (List.cons.inj (List.append_cancel_right hchars)).2
  exact String.toList_inj.mp (flatMap_escapeChar_injective hbetween)

end Supervision.Text
