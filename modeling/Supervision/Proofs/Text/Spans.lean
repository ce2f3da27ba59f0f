import Mathlib.Tactic.Ring
import Supervision.Proofs.Text.OneLine
import Supervision.Proofs.Text.Quoted

/-!
# Spans are told exactly

The text of a span names the largest unit that the span holds at least once.  Before it stand the
number of whole units and, if there is more, a point and the digits of the fraction as far as the
last that is not zero.  Nothing is rounded, so a text is that of one span only.
-/

namespace Supervision

namespace Text

theorem isDigit_of_mem_toString {number : Nat} :
    ∀ char ∈ (toString number).toList, char.isDigit = true := by
  rw [Nat.toString_eq_repr, Nat.toList_repr]
  exact fun _ hmem ↦ Nat.isDigit_of_mem_toDigits (by decide) (by decide) hmem

theorem toList_toString_injective {number other : Nat}
    (h : (toString number).toList = (toString other).toList) : number = other := by
  have hvalue := congrArg (fun digits ↦ Nat.ofDigitChars 10 digits 0) h
  simpa using hvalue

end Text

/-- The units that spans are told in. -/
inductive TimeUnit
  | seconds
  | millis
  | micros
  | nanos
  deriving DecidableEq, Repr

namespace TimeUnit

def name : TimeUnit → String
  | seconds => "s"
  | millis => "ms"
  | micros => "µs"
  | nanos => "ns"

/-- The decimal places that a nanosecond has in the unit. -/
def places : TimeUnit → Nat
  | seconds => 9
  | millis => 6
  | micros => 3
  | nanos => 0

def size (unit : TimeUnit) : Nat := 10 ^ unit.places

theorem size_pos (unit : TimeUnit) : 0 < unit.size := Nat.pow_pos (by decide)

/-- No unit can be taken for the end of a number. -/
theorem head_name (unit : TimeUnit) :
    ∀ char ∈ unit.name.toList.head?, char.isDigit = false ∧ char ≠ '.' := by
  intro char hmem
  cases unit <;> (obtain rfl := Option.some.inj hmem; decide)

theorem name_injective {unit other : TimeUnit} (h : unit.name.toList = other.name.toList) :
    unit = other := by
  revert h
  cases unit <;> cases other <;> decide

end TimeUnit

namespace Span

/-- A number of units as a text, with a point before the fraction if there is one. -/
def layout (unit : TimeUnit) (whole : Nat) (fraction : List Char) : String :=
  toString whole ++ String.ofList (if fraction.isEmpty then [] else '.' :: fraction) ++ unit.name

/-- A span comes to so many units and this fraction. -/
structure Told (span : Span) (unit : TimeUnit) (whole : Nat) (fraction : List Char) : Prop where
  /-- There is at least one of the unit, unless there is none of any. -/
  held : unit = .nanos ∨ unit.size ≤ span.nanos
  largest : ∀ other : TimeUnit, other.size ≤ span.nanos → other.size ≤ unit.size
  digits : ∀ char ∈ fraction, char.isDigit = true
  /-- The whole and the fraction are all that there is. -/
  value : span.nanos * 10 ^ fraction.length =
    (whole * 10 ^ fraction.length + Nat.ofDigitChars 10 fraction 0) * unit.size
  trimmed : fraction.getLast? ≠ some '0'

/-! ## The fraction -/

theorem fractionDigits_of_ne_zero {places part : Nat} (h : part ≠ 0) :
    fractionDigits (places + 1) part =
      Nat.digitChar (part / 10 ^ places) :: fractionDigits places (part % 10 ^ places) := by
  rw [fractionDigits, if_neg h]
  rfl

/-- The digits of a fraction come to it exactly. -/
theorem value_fractionDigits {places part : Nat} (h : part < 10 ^ places) :
    part * 10 ^ (fractionDigits places part).length =
      Nat.ofDigitChars 10 (fractionDigits places part) 0 * 10 ^ places := by
  induction places generalizing part with
  | zero =>
    obtain rfl : part = 0 := by simpa using h
    rfl
  | succ places ih =>
    by_cases hzero : part = 0
    · subst hzero
      simp [fractionDigits]
    · have hpositive : 0 < 10 ^ places := Nat.pow_pos (by decide)
      have hdigit : part / 10 ^ places < 10 := Nat.div_lt_of_lt_mul h
      have hrest := ih (Nat.mod_lt part hpositive)
      rw [fractionDigits_of_ne_zero hzero, List.length_cons,
        Nat.ofDigitChars_cons_digitChar_of_lt_ten hdigit, Nat.ofDigitChars_eq_ofDigitChars_zero]
      generalize fractionDigits places (part % 10 ^ places) = digits at hrest ⊢
      calc
        part * 10 ^ (digits.length + 1) =
            (10 ^ places * (part / 10 ^ places) + part % 10 ^ places) * 10 ^ (digits.length + 1) := by
          rw [Nat.div_add_mod]
        _ = 10 ^ digits.length * (part / 10 ^ places) * 10 ^ (places + 1) +
            part % 10 ^ places * 10 ^ digits.length * 10 := by ring
        _ = 10 ^ digits.length * (part / 10 ^ places) * 10 ^ (places + 1) +
            Nat.ofDigitChars 10 digits 0 * 10 ^ places * 10 := by rw [hrest]
        _ = (10 ^ digits.length * (10 * 0 + part / 10 ^ places) + Nat.ofDigitChars 10 digits 0) *
            10 ^ (places + 1) := by ring

/-- A fraction does not end in a zero: if no digit follows then nothing is left, and the digit
itself is not zero. -/
theorem getLast?_fractionDigits {places part : Nat} (h : part < 10 ^ places) :
    (fractionDigits places part).getLast? ≠ some '0' := by
  induction places generalizing part with
  | zero => exact nofun
  | succ places ih =>
    by_cases hzero : part = 0
    · simp [fractionDigits, hzero]
    · have hpositive : 0 < 10 ^ places := Nat.pow_pos (by decide)
      have hrest := Nat.mod_lt part hpositive
      rw [fractionDigits_of_ne_zero hzero, List.getLast?_cons]
      cases hlast : (fractionDigits places (part % 10 ^ places)).getLast? with
      | some last => exact fun heq ↦ ih hrest (hlast.trans heq)
      | none =>
        have hvalue := value_fractionDigits hrest
        rw [List.getLast?_eq_none_iff.mp hlast] at hvalue
        have hnone : part % 10 ^ places = 0 := by simpa using hvalue
        have hdigit : part / 10 ^ places ≠ 0 := fun hdiv ↦ hzero <| by
          rw [← Nat.div_add_mod part (10 ^ places), hdiv, hnone, Nat.mul_zero]
        simpa using hdigit

/-! ## The text -/

/-- The text of a span is told in the largest unit that it holds. -/
theorem exists_unit (span : Span) : ∃ unit : TimeUnit,
    (unit = .nanos ∨ unit.size ≤ span.nanos) ∧
      (∀ other : TimeUnit, other.size ≤ span.nanos → other.size ≤ unit.size) ∧
        span.text = decimal span.nanos unit.places unit.name := by
  unfold text
  split
  · next hseconds =>
    exact ⟨.seconds, .inr hseconds, fun other _ ↦ by cases other <;> decide, rfl⟩
  split
  · next hseconds hmillis =>
    refine ⟨.millis, .inr hmillis, fun other hother ↦ ?_, rfl⟩
    cases other with
    | seconds => exact absurd hother hseconds
    | _ => decide
  split
  · next hseconds hmillis hmicros =>
    refine ⟨.micros, .inr hmicros, fun other hother ↦ ?_, rfl⟩
    cases other with
    | seconds => exact absurd hother hseconds
    | millis => exact absurd hother hmillis
    | _ => decide
  · next hseconds hmillis hmicros =>
    refine ⟨.nanos, .inl rfl, fun other hother ↦ ?_, rfl⟩
    cases other with
    | seconds => exact absurd hother hseconds
    | millis => exact absurd hother hmillis
    | micros => exact absurd hother hmicros
    | nanos => exact Nat.le_refl _

/-- Every span is told in one of the units. -/
theorem text_told (span : Span) :
    ∃ unit whole fraction, span.Told unit whole fraction ∧ span.text = layout unit whole fraction := by
  obtain ⟨unit, held, largest, htext⟩ := span.exists_unit
  have hpart : span.nanos % 10 ^ unit.places < 10 ^ unit.places := Nat.mod_lt _ unit.size_pos
  refine ⟨unit, span.nanos / unit.size, fractionDigits unit.places (span.nanos % unit.size),
    ⟨held, largest, isDigit_of_mem_fractionDigits hpart, ?_, getLast?_fractionDigits hpart⟩, htext⟩
  have hvalue := value_fractionDigits hpart
  rw [Nat.add_mul]
  unfold TimeUnit.size
  generalize fractionDigits unit.places (span.nanos % 10 ^ unit.places) = digits at hvalue ⊢
  calc
    span.nanos * 10 ^ digits.length =
        (10 ^ unit.places * (span.nanos / 10 ^ unit.places) + span.nanos % 10 ^ unit.places) *
          10 ^ digits.length := by rw [Nat.div_add_mod]
    _ = span.nanos / 10 ^ unit.places * 10 ^ digits.length * 10 ^ unit.places +
        span.nanos % 10 ^ unit.places * 10 ^ digits.length := by ring
    _ = _ := by rw [hvalue]

/-- The number, the fraction and the unit can be told from the text. -/
theorem layout_injective {unit other : TimeUnit} {whole more : Nat} {fraction rest : List Char}
    (hfraction : ∀ char ∈ fraction, char.isDigit = true)
    (hrest : ∀ char ∈ rest, char.isDigit = true)
    (h : layout unit whole fraction = layout other more rest) :
    unit = other ∧ whole = more ∧ fraction = rest := by
  have hchars := congrArg String.toList h
  simp only [layout, String.toList_append, String.toList_ofList, List.append_assoc] at hchars
  have hhead (unit : TimeUnit) (fraction : List Char) :
      ∀ char ∈ ((if fraction.isEmpty then [] else '.' :: fraction) ++ unit.name.toList).head?,
        char.isDigit = false := by
    cases fraction with
    | nil => exact fun char hmem ↦ (unit.head_name char hmem).1
    | cons digit fraction => simp
  obtain ⟨hwhole, hafter⟩ := Text.append_inj_of_kind Text.isDigit_of_mem_toString
    Text.isDigit_of_mem_toString (hhead unit fraction) (hhead other rest) hchars
  have hpoint (unit other : TimeUnit) (digits : List Char) :
      '.' :: digits ++ unit.name.toList ≠ other.name.toList := fun heq ↦
    (other.head_name '.' (by rw [← heq]; rfl)).2 rfl
  have hname (unit : TimeUnit) : ∀ char ∈ unit.name.toList.head?, char.isDigit = false :=
    fun char hmem ↦ (unit.head_name char hmem).1
  refine (and_left_comm.mp ⟨Text.toList_toString_injective hwhole, ?_⟩)
  cases fraction with
  | nil =>
    cases rest with
    | nil => exact ⟨TimeUnit.name_injective hafter, rfl⟩
    | cons digit rest => exact absurd hafter.symm (hpoint other unit (digit :: rest))
  | cons digit fraction =>
    cases rest with
    | nil => exact absurd hafter (hpoint unit other (digit :: fraction))
    | cons last rest =>
      obtain ⟨hdigits, hunit⟩ := Text.append_inj_of_kind hfraction hrest (hname unit) (hname other)
        (List.cons.inj hafter).2
      exact ⟨TimeUnit.name_injective hunit, hdigits⟩

/-- A span can be told from its number, its fraction and its unit. -/
theorem Told.unique {span other : Span} {unit : TimeUnit} {whole : Nat} {fraction : List Char}
    (h : span.Told unit whole fraction) (hother : other.Told unit whole fraction) : span = other := by
  have hpositive : 0 < 10 ^ fraction.length := Nat.pow_pos (by decide)
  have hnanos : span.nanos = other.nanos :=
    Nat.eq_of_mul_eq_mul_right hpositive (h.value.trans hother.value.symm)
  cases span
  cases other
  exact congrArg Span.mk hnanos

/-- Different spans have different texts. -/
theorem text_injective {span other : Span} (h : span.text = other.text) : span = other := by
  obtain ⟨unit, whole, fraction, told, htext⟩ := span.text_told
  obtain ⟨unit', whole', fraction', told', htext'⟩ := other.text_told
  have hlayout := (htext.symm.trans h).trans htext'
  obtain ⟨rfl, rfl, rfl⟩ := layout_injective told.digits told'.digits hlayout
  exact told.unique told'

example : (Span.mk 1050000000).text = "1.05s" := by decide

example : (Span.mk 1500).text = "1.5µs" := by decide

end Span

end Supervision
