import Supervision.Json.Value
import Supervision.Proofs.Text.Encoding

/-!
# Documents are written as text

What is put around strings, numbers and members is ASCII, and so is every escape.  The characters
outside ASCII are written as they are, so that a written document is well-formed UTF-8 whatever its
strings hold.
-/

namespace Supervision.Json

open Text.Utf8

theorem escapeByte_of_le {byte : UInt8} (h : 0x80 ≤ byte) : escapeByte byte = [byte] := by
  rw [UInt8.le_iff_toNat_le] at h
  have hne (other : UInt8) (hother : other.toNat < 0x80) : byte ≠ other := by
    rintro rfl
    exact absurd h (Nat.not_le.mpr hother)
  have hcontrol : ¬byte < 0x20 := by
    rw [UInt8.lt_iff_toNat_lt]
    exact Nat.not_lt.mpr (Nat.le_trans (by decide) h)
  unfold escapeByte
  rw [if_neg (hne _ (by decide)), if_neg (hne _ (by decide)), if_neg (hne _ (by decide)),
    if_neg (hne _ (by decide)), if_neg (hne _ (by decide)), if_neg (hne _ (by decide)),
    if_neg (hne _ (by decide)), if_neg hcontrol]

theorem escapeByte_ascii {byte : UInt8} (h : byte < 0x80) : ∀ other ∈ escapeByte byte, other < 0x80 := by
  have hall : ∀ code < 0x80, ∀ other ∈ escapeByte code.toUInt8, other < 0x80 := by
    decide +kernel
  have hcode := hall byte.toNat (UInt8.lt_iff_toNat_lt.mp h)
  rwa [show byte.toNat.toUInt8 = byte by simp] at hcode

/-- An escaped character is still text, since escapes hold ASCII only and all else is left whole. -/
theorem isText_escaped (char : Char) : IsText ((String.utf8EncodeChar char).flatMap escapeByte) := by
  by_cases h : char.toNat < 0x80
  · rw [utf8EncodeChar_of_ascii h, List.flatMap_singleton]
    have hsmall : char.toNat.toUInt8 < 0x80 := by
      rw [UInt8.lt_iff_toNat_lt]
      exact Nat.lt_of_le_of_lt (Nat.mod_le _ _) h
    exact isText_of_ascii (escapeByte_ascii hsmall)
  · have hself : (String.utf8EncodeChar char).flatMap escapeByte = String.utf8EncodeChar char := by
      rw [List.flatMap_congr fun byte hmem ↦ escapeByte_of_le (le_of_mem_utf8EncodeChar h byte hmem)]
      simp
    refine ⟨String.ofList [char], ?_⟩
    rw [hself, encode_ofList, List.flatMap_singleton]

/-- A string is text as it is written. -/
theorem isText_writeString (text : String) : IsText (writeString text) := by
  have hcontent : IsText ((encode text).flatMap escapeByte) := by
    rw [encode_eq_flatMap, List.flatMap_assoc]
    exact isText_flatMap fun char _ ↦ isText_escaped char
  have hquote : IsText [0x22] := ⟨"\"", rfl⟩
  exact (hquote.append hcontent).append hquote

theorem isText_separated {separator : Bytes} (h : IsText separator) {parts : List Bytes}
    (hparts : ∀ part ∈ parts, IsText part) : IsText (separated separator parts) := by
  induction parts with
  | nil => exact isText_nil
  | cons part parts ih =>
    obtain ⟨hpart, hrest⟩ := List.forall_mem_cons.mp hparts
    cases parts with
    | nil => exact hpart
    | cons other parts => exact (hpart.append h).append (ih hrest)

theorem isText_bracketed {left right : UInt8} (hleft : left < 0x80) (hright : right < 0x80)
    {parts : List Bytes} (hparts : ∀ part ∈ parts, IsText part) :
    IsText (left :: separated [0x2c] parts ++ [right]) := by
  have hopening : IsText [left] := isText_of_ascii (List.forall_mem_singleton.mpr hleft)
  have hclosing : IsText [right] := isText_of_ascii (List.forall_mem_singleton.mpr hright)
  exact (hopening.append (isText_separated ⟨",", rfl⟩ hparts)).append hclosing

mutual

/-- Every document is written as a text. -/
theorem isText_compact : ∀ json : Json, IsText json.compact
  | .null => isText_encode _
  | .number _ => isText_encode _
  | .text value => isText_writeString value
  | .list elements => isText_bracketed (by decide) (by decide) (isText_compactElements elements)
  | .object members => isText_bracketed (by decide) (by decide) (isText_compactMembers members)

theorem isText_compactElements :
    ∀ elements : List Json, ∀ part ∈ compactElements elements, IsText part
  | [] => nofun
  | element :: rest =>
    List.forall_mem_cons.mpr ⟨isText_compact element, isText_compactElements rest⟩

theorem isText_compactMembers :
    ∀ members : List (String × Json), ∀ part ∈ compactMembers members, IsText part
  | [] => nofun
  | (name, value) :: rest => by
    have hcolon : IsText [0x3a] := ⟨":", rfl⟩
    have hmember : IsText (writeString name ++ 0x3a :: value.compact) :=
      (isText_writeString name).append (hcolon.append (isText_compact value))
    exact List.forall_mem_cons.mpr ⟨hmember, isText_compactMembers rest⟩

end

end Supervision.Json
