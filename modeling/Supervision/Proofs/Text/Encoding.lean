import Supervision.Text.Utf8
import Mathlib.Data.List.Basic

/-!
# Octets of a text

A text is encoded character by character.  An octet of ASCII stands for itself wherever it occurs,
since the octets of all other characters are outside ASCII.  Octets spell a text if they are put
together from octets that do.
-/

namespace Supervision.Text.Utf8

theorem encode_ofList (chars : List Char) :
    encode (String.ofList chars) = chars.flatMap String.utf8EncodeChar := by
  simp [encode, String.ofList, List.utf8Encode]

theorem encode_eq_flatMap (text : String) :
    encode text = text.toList.flatMap String.utf8EncodeChar := by
  rw [← encode_ofList, String.ofList_toList]

theorem utf8EncodeChar_of_ascii {char : Char} (h : char.toNat < 0x80) :
    String.utf8EncodeChar char = [char.toNat.toUInt8] := by
  have hsize : char.utf8Size = 1 := by
    rw [Char.utf8Size_eq_one_iff, UInt32.le_iff_toNat_le]
    exact Nat.le_of_lt_succ h
  rw [String.utf8EncodeChar_eq_singleton hsize]
  rfl

theorem utf8EncodeChar_ofNat {byte : UInt8} (h : byte.toNat < 0x80) :
    String.utf8EncodeChar (Char.ofNat byte.toNat) = [byte] := by
  have hall : ∀ code < 0x80, String.utf8EncodeChar (Char.ofNat code) = [code.toUInt8] := by decide
  rw [hall byte.toNat h]
  simp

/-- No octet of a character outside ASCII is a character of ASCII. -/
theorem le_of_mem_utf8EncodeChar {char : Char} (h : ¬char.toNat < 0x80) :
    ∀ byte ∈ String.utf8EncodeChar char, 0x80 ≤ byte := by
  have hchar : ¬char.val.toNat ≤ 0x7f := fun hle ↦ h (Nat.lt_succ_of_le hle)
  have hbyte (offset value modulus : Nat) (low : 0x80 ≤ offset) (high : offset + modulus ≤ 0x100)
      (positive : 0 < modulus) : 0x80 ≤ UInt8.ofNat (value % modulus + offset) := by
    have hvalue := Nat.mod_lt value positive
    have htoNat : (UInt8.ofNat (value % modulus + offset)).toNat = value % modulus + offset :=
      UInt8.toNat_ofNat_of_lt (by change _ < 256; omega)
    rw [UInt8.le_iff_toNat_le, htoNat]
    exact Nat.le_trans low (Nat.le_add_left offset _)
  intro byte hmem
  rw [String.utf8EncodeChar] at hmem
  simp only [hchar, if_false] at hmem
  split at hmem
  · simp only [List.mem_cons, List.not_mem_nil, or_false] at hmem
    rcases hmem with rfl | rfl
    all_goals exact hbyte _ _ _ (by decide) (by decide) (by decide)
  split at hmem
  · simp only [List.mem_cons, List.not_mem_nil, or_false] at hmem
    rcases hmem with rfl | rfl | rfl
    all_goals exact hbyte _ _ _ (by decide) (by decide) (by decide)
  · simp only [List.mem_cons, List.not_mem_nil, or_false] at hmem
    rcases hmem with rfl | rfl | rfl | rfl
    all_goals exact hbyte _ _ _ (by decide) (by decide) (by decide)

/-- An octet of ASCII stands for its character wherever it occurs. -/
theorem mem_encode_iff {text : String} {char : Char} (ascii : char.toNat < 0x80) :
    char.toNat.toUInt8 ∈ encode text ↔ char ∈ text.toList := by
  rw [encode_eq_flatMap, List.mem_flatMap]
  constructor
  · rintro ⟨other, hother, hmem⟩
    by_cases h : other.toNat < 0x80
    · rw [utf8EncodeChar_of_ascii h, List.mem_singleton] at hmem
      have htoNat := congrArg UInt8.toNat hmem
      simp only [Nat.toUInt8, UInt8.toNat_ofNat'] at htoNat
      have heq : char = other := by
        apply Char.toNat_inj.mp
        omega
      exact heq ▸ hother
    · have hle := le_of_mem_utf8EncodeChar h _ hmem
      rw [UInt8.le_iff_toNat_le] at hle
      simp at hle
      omega
  · intro hmem
    exact ⟨char, hmem, utf8EncodeChar_of_ascii ascii ▸ List.mem_singleton_self _⟩

/-- Octets that are the UTF-8 form of some text. -/
def IsText (bytes : Bytes) : Prop := ∃ text, encode text = bytes

theorem isText_encode (text : String) : IsText (encode text) := ⟨text, rfl⟩

theorem isText_nil : IsText [] := ⟨"", rfl⟩

theorem IsText.append {bytes more : Bytes} (h : IsText bytes) (hmore : IsText more) :
    IsText (bytes ++ more) := by
  obtain ⟨text, rfl⟩ := h
  obtain ⟨other, rfl⟩ := hmore
  exact ⟨text ++ other, encode_append text other⟩

theorem isText_flatMap {α : Type} {parts : List α} {write : α → Bytes}
    (h : ∀ part ∈ parts, IsText (write part)) : IsText (parts.flatMap write) := by
  induction parts with
  | nil => exact isText_nil
  | cons part parts ih =>
    obtain ⟨hpart, hparts⟩ := List.forall_mem_cons.mp h
    exact hpart.append (ih hparts)

theorem isText_of_ascii {bytes : Bytes} (ascii : ∀ byte ∈ bytes, byte < 0x80) : IsText bytes := by
  have hsingle : ∀ byte ∈ bytes, IsText [byte] := fun byte hmem ↦ by
    have hbyte : byte.toNat < 0x80 := UInt8.lt_iff_toNat_lt.mp (ascii byte hmem)
    refine ⟨String.ofList [Char.ofNat byte.toNat], ?_⟩
    rw [encode_ofList, List.flatMap_singleton, utf8EncodeChar_ofNat hbyte]
  simpa using isText_flatMap hsingle

end Supervision.Text.Utf8
