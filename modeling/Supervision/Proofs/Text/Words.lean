import Mathlib.Data.List.DropRight
import Mathlib.Data.List.Forall2
import Supervision.Text.Blank

/-!
# Words without the white space around them, in any case

A text is taken apart into runs of characters of one kind.  The word in it is what is left between the
white space at its two ends; every text has exactly one.  Two words are spelled alike if they differ at
most in the case of letters of ASCII, and this is what the same capitals mean.
-/

namespace Supervision.Text

/-! ## Runs of characters -/

section

variable {kind : Char → Bool} {run rest : List Char}

/-- Where a run of characters of one kind ends is seen from what follows it. -/
theorem dropWhile_append_of_head (hrun : ∀ char ∈ run, kind char = true)
    (hrest : ∀ char ∈ rest.head?, kind char = false) : (run ++ rest).dropWhile kind = rest := by
  rw [List.dropWhile_append_of_pos hrun]
  cases rest with
  | nil => rfl
  | cons char rest => exact List.dropWhile_cons_of_neg (by simp [hrest char rfl])

/-- Where a run of characters of some kind ends can be told from the text. -/
theorem append_inj_of_kind {other more : List Char} (hrun : ∀ char ∈ run, kind char = true)
    (hother : ∀ char ∈ other, kind char = true) (hrest : ∀ char ∈ rest.head?, kind char = false)
    (hmore : ∀ char ∈ more.head?, kind char = false) (h : run ++ rest = other ++ more) :
    run = other ∧ rest = more := by
  have hafter : rest = more := by
    calc
      rest = (run ++ rest).dropWhile kind := (dropWhile_append_of_head hrun hrest).symm
      _ = (other ++ more).dropWhile kind := by rw [h]
      _ = more := dropWhile_append_of_head hother hmore
  subst hafter
  exact ⟨List.append_cancel_right h, rfl⟩

end

/-! ## White space -/

/-- A word in a text, with all the white space around it. -/
structure Trimmed (chars word : List Char) : Prop where
  between : ∃ before after, chars = before ++ word ++ after ∧
    (∀ char ∈ before, isBlank char = true) ∧ ∀ char ∈ after, isBlank char = true
  first : ∀ char ∈ word.head?, isBlank char = false
  last : ∀ char ∈ word.getLast?, isBlank char = false

theorem trimChars_eq_rdropWhile (chars : List Char) :
    trimChars chars = (chars.dropWhile isBlank).rdropWhile isBlank := rfl

theorem trimmed_trimChars (chars : List Char) : Trimmed chars (trimChars chars) := by
  rw [trimChars_eq_rdropWhile]
  constructor
  case between =>
    refine ⟨chars.takeWhile isBlank, (chars.dropWhile isBlank).rtakeWhile isBlank, ?_, ?_, ?_⟩
    · rw [List.append_assoc, List.rdropWhile_append_rtakeWhile, List.takeWhile_append_dropWhile]
    · exact fun char hmem ↦ List.mem_takeWhile_imp hmem
    · exact fun char hmem ↦ List.mem_rtakeWhile_imp hmem
  case first =>
    obtain ⟨ending, hdropped⟩ := List.rdropWhile_prefix isBlank (chars.dropWhile isBlank)
    intro char hmem
    obtain ⟨word, hword⟩ := List.head?_eq_some_iff.mp hmem
    have hhead : (chars.dropWhile isBlank).head? = some char := by
      rw [← hdropped, hword]
      rfl
    have hfails := List.head?_dropWhile_not isBlank chars
    rw [hhead] at hfails
    simpa using hfails
  case last =>
    intro char hmem
    obtain ⟨word, hword⟩ := List.getLast?_eq_some_iff.mp hmem
    have hne : (chars.dropWhile isBlank).rdropWhile isBlank ≠ [] := by simp [hword]
    have hfails := List.rdropWhile_last_not isBlank (chars.dropWhile isBlank) hne
    simpa [hword] using hfails

/-- Only one word of a text has all the white space around it. -/
theorem Trimmed.eq_trimChars {chars word : List Char} (h : Trimmed chars word) :
    word = trimChars chars := by
  obtain ⟨⟨before, after, rfl, hbefore, hafter⟩, hfirst, hlast⟩ := h
  have hreversed : ∀ char ∈ after.reverse, isBlank char = true := by simpa using hafter
  cases word with
  | nil =>
    have hblank : ∀ char ∈ before ++ [] ++ after, isBlank char = true := by
      rw [List.append_nil, List.forall_mem_append]
      exact ⟨hbefore, hafter⟩
    rw [trimChars, List.dropWhile_eq_nil_iff.mpr hblank]
    rfl
  | cons char word =>
    have hstart : (before ++ (char :: word ++ after)).dropWhile isBlank = char :: word ++ after :=
      dropWhile_append_of_head hbefore hfirst
    have hend : (after.reverse ++ (char :: word).reverse).dropWhile isBlank =
        (char :: word).reverse := by
      apply dropWhile_append_of_head hreversed
      rwa [List.head?_reverse]
    rw [trimChars, List.append_assoc, hstart, List.reverse_append, hend, List.reverse_reverse]

theorem trimmed_iff {chars word : List Char} : Trimmed chars word ↔ word = trimChars chars := by
  constructor
  · exact Trimmed.eq_trimChars
  · rintro rfl
    exact trimmed_trimChars chars

instance (chars word : List Char) : Decidable (Trimmed chars word) :=
  decidable_of_iff _ trimmed_iff.symm

/-! ## Case -/

/-- The characters are the same but for the case of a letter of ASCII. -/
def SameLetter (char other : Char) : Prop :=
  char = other ∨ ∃ letter < 26,
    char.toNat = 0x41 + letter ∧ other.toNat = 0x61 + letter ∨
      char.toNat = 0x61 + letter ∧ other.toNat = 0x41 + letter

instance : DecidableRel SameLetter := fun _ _ ↦ inferInstanceAs (Decidable (_ ∨ _))

/-- The words are the same but for the case of letters of ASCII. -/
def SameLetters : List Char → List Char → Prop := List.Forall₂ SameLetter

instance : DecidableRel SameLetters := inferInstanceAs (DecidableRel (List.Forall₂ SameLetter))

theorem toNat_toUpper (char : Char) :
    char.toUpper.toNat =
      if 0x61 ≤ char.toNat ∧ char.toNat ≤ 0x7a then char.toNat - 0x20 else char.toNat := by
  have hlower : char.val ≥ 'a'.val ∧ char.val ≤ 'z'.val ↔
      0x61 ≤ char.toNat ∧ char.toNat ≤ 0x7a := by
    simp [UInt32.le_iff_toNat_le]
  unfold Char.toUpper
  by_cases h : char.val ≥ 'a'.val ∧ char.val ≤ 'z'.val
  · have hrange := hlower.mp h
    have hback : ('A'.val - 'a'.val).toNat = 2 ^ 32 - 0x20 := rfl
    have hsum : char.val.toNat + (2 ^ 32 - 0x20) = char.toNat - 0x20 + 2 ^ 32 := by
      change char.toNat + _ = _
      omega
    rw [dif_pos h, if_pos hrange]
    calc
      _ = (char.val + ('A'.val - 'a'.val)).toNat := rfl
      _ = (char.toNat - 0x20 + 2 ^ 32) % 2 ^ 32 := by rw [UInt32.toNat_add, hback, hsum]
      _ = char.toNat - 0x20 := by omega
  · rw [dif_neg h, if_neg (mt hlower.mpr h)]

/-- Characters have one capital just if they differ in nothing but the case. -/
theorem toUpper_eq_iff {char other : Char} :
    char.toUpper = other.toUpper ↔ SameLetter char other := by
  rw [← Char.toNat_inj, toNat_toUpper, toNat_toUpper, SameLetter, ← Char.toNat_inj]
  constructor
  · intro h
    split_ifs at h with hchar hother hother
    · exact .inl (by omega)
    · exact .inr ⟨char.toNat - 0x61, by omega⟩
    · exact .inr ⟨other.toNat - 0x61, by omega⟩
    · exact .inl h
  · rintro (h | ⟨letter, hletter, h | h⟩)
    · rw [h]
    · split_ifs <;> omega
    · split_ifs <;> omega

theorem map_toUpper_eq_iff {chars others : List Char} :
    chars.map Char.toUpper = others.map Char.toUpper ↔ SameLetters chars others := by
  rw [← List.forall₂_eq_eq_eq, List.forall₂_map_left_iff, List.forall₂_map_right_iff]
  simp only [toUpper_eq_iff, SameLetters]

end Supervision.Text
