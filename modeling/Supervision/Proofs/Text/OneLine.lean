import Supervision.Errno
import Supervision.ExitStatus
import Supervision.Output.LineBuffer
import Supervision.Proofs.Text.Encoding
import Supervision.Signal
import Supervision.Span

/-!
# Texts of one line

A text without a line feed is shown as one line.  Numbers, spans, exit statuses, the names of signals
and the reports of system errors are such texts, whatever their values, and texts of one line make one
line when they are put together.
-/

namespace Supervision

namespace Text

/-- The text has no line feed. -/
def OneLine (text : String) : Prop := '\n' ∉ text.toList

theorem OneLine.append {text more : String} (h : OneLine text) (hmore : OneLine more) :
    OneLine (text ++ more) := by
  rw [OneLine, String.toList_append, List.mem_append, not_or]
  exact ⟨h, hmore⟩

/-- A text of one line is encoded without a line feed, and only such a text is. -/
theorem lineFeed_not_mem_encode {text : String} :
    Output.lineFeed ∉ Utf8.encode text ↔ OneLine text := by
  have ascii : '\n'.toNat < 0x80 := by decide
  exact not_congr (Utf8.mem_encode_iff ascii)

/-- The octets of a literal are at hand, while its characters would be decoded from them. -/
instance (text : String) : Decidable (OneLine text) :=
  decidable_of_iff _ lineFeed_not_mem_encode

theorem oneLine_ofList {chars : List Char} : OneLine (String.ofList chars) ↔ '\n' ∉ chars := by
  rw [OneLine, String.toList_ofList]

theorem lineFeed_not_mem_digits {chars : List Char} (h : ∀ char ∈ chars, char.isDigit = true) :
    '\n' ∉ chars := fun hmem ↦ absurd (h '\n' hmem) (by decide)

theorem oneLine_toString_nat (number : Nat) : OneLine (toString number) :=
  oneLine_ofList.mpr <| lineFeed_not_mem_digits fun _ hmem ↦
    Nat.isDigit_of_mem_toDigits (by decide) (by decide) hmem

theorem oneLine_toString_int (number : Int) : OneLine (toString number) := by
  cases number with
  | ofNat number => exact oneLine_toString_nat number
  | negSucc number =>
    have hminus : OneLine "-" := by decide
    exact hminus.append (oneLine_toString_nat (number + 1))

end Text

open Text

theorem Signal.oneLine_name (signal : Signal) : OneLine signal.name := by
  cases signal <;> decide

/-! ## Spans -/

namespace Span

theorem isDigit_of_mem_fractionDigits {places part : Nat} (h : part < Nat.pow 10 places) :
    ∀ char ∈ fractionDigits places part, char.isDigit = true := by
  have hall : ∀ digit < 10, (Nat.digitChar digit).isDigit = true := by decide
  induction places generalizing part with
  | zero => exact nofun
  | succ places ih =>
    have hpositive : 0 < Nat.pow 10 places := Nat.pow_pos (by decide)
    have hdigit : part / Nat.pow 10 places < 10 := Nat.div_lt_of_lt_mul h
    unfold fractionDigits
    split
    · exact nofun
    · rw [List.forall_mem_cons]
      exact ⟨hall _ hdigit, ih (Nat.mod_lt part hpositive)⟩

theorem oneLine_decimal {unit : String} (nanos places : Nat) (h : OneLine unit) :
    OneLine (decimal nanos places unit) := by
  have hpositive : 0 < Nat.pow 10 places := Nat.pow_pos (by decide)
  have hdigits := isDigit_of_mem_fractionDigits (Nat.mod_lt nanos hpositive)
  have hpoint {fraction : List Char} (hall : ∀ char ∈ fraction, char.isDigit = true) :
      OneLine (String.ofList (if fraction.isEmpty then [] else '.' :: fraction)) := by
    rw [oneLine_ofList]
    split
    · exact List.not_mem_nil
    · exact List.not_mem_cons_of_ne_of_not_mem (by decide) (lineFeed_not_mem_digits hall)
  exact ((oneLine_toString_nat _).append (hpoint hdigits)).append h

/-- A span is told on one line. -/
theorem oneLine_text (span : Span) : OneLine span.text := by
  unfold text
  split
  · exact oneLine_decimal _ _ (by decide)
  split
  · exact oneLine_decimal _ _ (by decide)
  split
  · exact oneLine_decimal _ _ (by decide)
  · exact oneLine_decimal _ _ (by decide)

end Span

/-! ## Exits and errors -/

theorem ExitStatus.oneLine_text (status : ExitStatus) : OneLine status.text := by
  have hsignal : OneLine "by signal " := by decide
  unfold text
  split
  · exact oneLine_toString_int _
  · exact hsignal.append (oneLine_toString_int _)
  · decide

namespace Errno

theorem oneLine_table : ∀ row ∈ table, OneLine row.2.2.1 := by
  decide +kernel

/-- No sentence of the system library holds a line feed. -/
theorem oneLine_sentence (errno : Errno) : OneLine errno.sentence := by
  have hunknown : OneLine "Unknown error " := by decide
  unfold sentence
  split
  · rename_i hfound
    exact oneLine_table _ (List.mem_of_find?_eq_some hfound)
  · split
    · decide
    · exact hunknown.append (oneLine_toString_int _)

theorem oneLine_report (errno : Errno) : OneLine errno.report := by
  have hbefore : OneLine " (os error " := by decide
  have hafter : OneLine ")" := by decide
  exact (errno.oneLine_sentence.append hbefore).append (oneLine_toString_int _) |>.append hafter

end Errno

end Supervision
