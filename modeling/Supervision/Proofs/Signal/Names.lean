import Supervision.Proofs.Config.Saving
import Supervision.Proofs.Text.Quoted
import Supervision.Proofs.Text.Words

/-!
# The names of signals

A text names a signal if the word in it is the signal's name, in any case, with or without the letters
that all names begin with.  No text names two signals.  A text that names none is refused with a
message that quotes it, white space and all, so that the message tells which text it was.
-/

namespace Supervision.Signal

open Text

/-- The letters that all names begin with. -/
def lead : List Char := ['S', 'I', 'G']

/-- The word is the name of the signal, or what follows the lead in it, in any case. -/
def SpelledBy (signal : Signal) (word : List Char) : Prop :=
  SameLetters word signal.name.toList ∨ SameLetters word signal.shortName.toList

/-- The word in the text spells the signal. -/
def NamedBy (signal : Signal) (text : String) : Prop :=
  ∃ word, Trimmed text.toList word ∧ signal.SpelledBy word

/-- The failure of a text that names no signal. -/
def unknown (text : String) : Failure := .signal ("unknown signal " ++ quoted text)

/-! ## Spellings -/

theorem toList_name (signal : Signal) : signal.name.toList = lead ++ signal.shortName.toList := by
  cases signal <;> rfl

theorem map_toUpper_name (signal : Signal) :
    signal.name.toList.map Char.toUpper = signal.name.toList := by
  cases signal <;> rfl

theorem map_toUpper_shortName (signal : Signal) :
    signal.shortName.toList.map Char.toUpper = signal.shortName.toList := by
  cases signal <;> rfl

theorem map_toUpper_lead : lead.map Char.toUpper = lead := rfl

theorem dropLead_lead (rest : List Char) : dropLead (lead ++ rest) = rest := rfl

theorem dropLead_shortName (signal : Signal) :
    dropLead signal.shortName.toList = signal.shortName.toList := by
  cases signal <;> rfl

/-- A short name comes from the name with its lead, or stands by itself. -/
theorem dropLead_eq_iff {chars : List Char} {signal : Signal} :
    dropLead chars = signal.shortName.toList ↔
      chars = signal.name.toList ∨ chars = signal.shortName.toList := by
  constructor
  · intro h
    unfold dropLead at h
    split at h
    · exact .inl (by rw [toList_name, ← h]; rfl)
    · exact .inr h
  · rintro (rfl | rfl)
    · rw [toList_name, dropLead_lead]
    · exact dropLead_shortName signal

/-- A word spells a signal if its capitals do. -/
theorem spelledBy_iff {signal : Signal} {word : List Char} :
    signal.SpelledBy word ↔ dropLead (word.map Char.toUpper) = signal.shortName.toList := by
  rw [dropLead_eq_iff, SpelledBy, ← map_toUpper_eq_iff, ← map_toUpper_eq_iff, map_toUpper_name,
    map_toUpper_shortName]

theorem shortName_injective {signal other : Signal}
    (h : signal.shortName.toList = other.shortName.toList) : signal = other := by
  revert h
  cases signal <;> cases other <;> decide

theorem shortName_ne_nil (signal : Signal) : signal.shortName.toList ≠ [] := by
  cases signal <;> decide

/-! ## Reading -/

theorem find?_shortName_eq_some_iff {chars : List Char} {signal : Signal} :
    all.find? (fun signal ↦ signal.shortName.toList == chars) = some signal ↔
      chars = signal.shortName.toList := by
  constructor
  · intro h
    have hfound := List.find?_some h
    exact (beq_iff_eq.mp hfound).symm
  · rintro rfl
    cases signal <;> rfl

theorem namedBy_iff {signal : Signal} {text : String} :
    signal.NamedBy text ↔ signal.SpelledBy (trimChars text.toList) := by
  simp only [NamedBy, trimmed_iff, exists_eq_left]

instance (signal : Signal) (text : String) : Decidable (signal.NamedBy text) :=
  haveI (word : List Char) : Decidable (signal.SpelledBy word) := inferInstanceAs (Decidable (_ ∨ _))
  decidable_of_iff _ namedBy_iff.symm

theorem ofText?_eq_some_iff {text : String} {signal : Signal} :
    ofText? text = some signal ↔ signal.NamedBy text := by
  rw [ofText?, find?_shortName_eq_some_iff, namedBy_iff, spelledBy_iff]

theorem ofText?_eq_none_iff {text : String} :
    ofText? text = none ↔ ∀ signal : Signal, ¬signal.NamedBy text := by
  simp only [Option.eq_none_iff_forall_ne_some, ne_eq, ofText?_eq_some_iff]

theorem parse_eq_ok_iff {text : String} {signal : Signal} :
    parse text = .ok signal ↔ signal.NamedBy text := by
  rw [← ofText?_eq_some_iff, parse]
  cases ofText? text <;> simp

/-- A text that names no signal fails with the text as it was given. -/
theorem parse_eq_error_iff {text : String} {failure : Failure} :
    parse text = .error failure ↔
      (∀ signal : Signal, ¬signal.NamedBy text) ∧ failure = unknown text := by
  rw [← ofText?_eq_none_iff, parse]
  cases ofText? text with
  | none => simp [unknown, eq_comm]
  | some signal => simp

theorem unknown_injective {text other : String} (h : unknown text = unknown other) :
    text = other := by
  have hdetail := Failure.signal.inj h
  exact quoted_injective ((String.append_right_inj _).mp hdetail)

/-- A text names at most one signal. -/
theorem NamedBy.unique {text : String} {signal other : Signal} (h : signal.NamedBy text)
    (hother : other.NamedBy text) : signal = other := by
  rw [namedBy_iff, spelledBy_iff] at h hother
  exact shortName_injective (h.symm.trans hother)

/-! ## What is refused -/

/-- Words that are far from any name: no word at all, a word with a blank or with a character outside
ASCII, and the lead with nothing behind it or twice. -/
inductive Malformed : List Char → Prop
  | empty : Malformed []
  | blank {word : List Char} {char : Char} : char ∈ word → isBlank char = true → Malformed word
  | foreign {word : List Char} {char : Char} : char ∈ word → 0x80 ≤ char.toNat → Malformed word
  | leadAlone {word : List Char} : SameLetters word lead → Malformed word
  | leadTwice {word : List Char} (rest : List Char) :
    SameLetters word (lead ++ lead ++ rest) → Malformed word

theorem range_name (signal : Signal) :
    ∀ char ∈ signal.name.toList, 0x30 ≤ char.toNat ∧ char.toNat ≤ 0x5a := by
  cases signal <;> simp [name, shortName]

theorem range_of_sameLetters {word chars : List Char} (h : SameLetters word chars)
    (hchars : ∀ char ∈ chars, 0x30 ≤ char.toNat ∧ char.toNat ≤ 0x5a) :
    ∀ char ∈ word, 0x30 ≤ char.toNat ∧ char.toNat ≤ 0x7a := by
  induction h with
  | nil => exact List.forall_mem_nil _
  | cons hletter _ ih =>
    obtain ⟨hfirst, hrest⟩ := List.forall_mem_cons.mp hchars
    refine List.forall_mem_cons.mpr ⟨?_, ih hrest⟩
    rcases hletter with rfl | ⟨letter, hletter, h | h⟩ <;> omega

/-- A word that spells a signal is made of letters and digits of ASCII. -/
theorem SpelledBy.range {signal : Signal} {word : List Char} (h : signal.SpelledBy word) :
    ∀ char ∈ word, 0x30 ≤ char.toNat ∧ char.toNat ≤ 0x7a := by
  have hname := signal.range_name
  rcases h with h | h
  · exact range_of_sameLetters h hname
  · apply range_of_sameLetters h
    rw [toList_name, List.forall_mem_append] at hname
    exact hname.2

/-- None of these words is a name.  Of two leads one is taken off, and no short name begins with the
other. -/
theorem Malformed.not_spelledBy {word : List Char} (malformed : Malformed word) (signal : Signal) :
    ¬signal.SpelledBy word := by
  intro h
  have hrange := h.range
  rw [spelledBy_iff] at h
  cases malformed with
  | empty => exact signal.shortName_ne_nil h.symm
  | blank hmem hblank =>
    have hcodes : ∀ code ∈ blankCodes, code < 0x30 ∨ 0x7a < code := by decide
    have hcode := hcodes _ (List.contains_iff_mem.mp hblank)
    have := hrange _ hmem
    omega
  | foreign hmem hforeign =>
    have := hrange _ hmem
    omega
  | leadAlone hlead =>
    rw [map_toUpper_eq_iff.mpr hlead, map_toUpper_lead] at h
    exact signal.shortName_ne_nil h.symm
  | leadTwice rest hlead =>
    rw [map_toUpper_eq_iff.mpr hlead, List.append_assoc, List.map_append, List.map_append,
      map_toUpper_lead, dropLead_lead] at h
    have hshort := signal.dropLead_shortName
    rw [← h, dropLead_lead] at hshort
    exact absurd (List.self_eq_append_left.mp hshort) (by decide)

/-- A text is read as a signal just if its word is the name of the signal in some case, with or without
the lead, and otherwise it is refused with a failure that tells the text as it was given.  No text
names two signals, and what a signal is written as names it again, also in a document. -/
theorem named_in_one_way :
    (∀ (text : String) (signal : Signal), parse text = .ok signal ↔ signal.NamedBy text) ∧
    (∀ (text : String) (failure : Failure), parse text = .error failure ↔
      (∀ signal : Signal, ¬signal.NamedBy text) ∧ failure = unknown text) ∧
    (∀ text other : String, unknown text = unknown other → text = other) ∧
    (∀ (text : String) (word : List Char), Trimmed text.toList word → Malformed word →
      parse text = .error (unknown text)) ∧
    (∀ (text : String) (signal other : Signal), signal.NamedBy text → other.NamedBy text →
      signal = other) ∧
    ∀ (text : String) (signal : Signal), parse text = .ok signal →
      parse signal.name = .ok signal ∧
        Config.readSignal.read (Json.text signal.name).compact = .ok signal := by
  refine ⟨fun _ _ ↦ parse_eq_ok_iff, fun _ _ ↦ parse_eq_error_iff, fun _ _ ↦ unknown_injective, ?_,
    fun _ _ _ ↦ NamedBy.unique, ?_⟩
  · intro text word trimmed malformed
    apply parse_eq_error_iff.mpr
    refine ⟨fun signal hnamed ↦ ?_, rfl⟩
    rw [namedBy_iff, ← trimmed.eq_trimChars] at hnamed
    exact malformed.not_spelledBy signal hnamed
  · intro text signal _
    exact ⟨signal.parse_name, (Config.accepts_signal signal).read_eq⟩

/-- A name in mixed case between white space, and one with the lead twice. -/
theorem named_in_one_way_mixed :
    parse "\t sigTerm\n" = .ok .terminate ∧ parse "SIGTERM" = .ok .terminate ∧
      Malformed " sigSIGterm".toList.tail ∧
        parse " sigSIGterm" = .error (unknown " sigSIGterm") := by
  obtain ⟨haccepts, -, -, hrefuses, -, hback⟩ := named_in_one_way
  have hterm : parse "\t sigTerm\n" = .ok .terminate := (haccepts _ _).mpr (by decide)
  have htwice : Malformed " sigSIGterm".toList.tail := .leadTwice "term".toList (by decide)
  exact ⟨hterm, (hback _ _ hterm).1, htwice, hrefuses _ _ (by decide) htwice⟩

end Supervision.Signal
