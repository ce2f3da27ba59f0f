import Supervision.Expansion
import Mathlib.Data.List.Infix

/-!
# References in a text

A text falls in exactly one way into references, each with the text before it, and a rest in which
no reference is closed.  Expansion puts the value of each name in the place of its reference and
keeps everything else, so that a value is never looked at again, whatever it holds.
-/

namespace Supervision.Expansion

/-- The two characters that begin a reference. -/
def opener : List Char := ['$', opening]

/-! ## The first reference -/

section

variable {chars before after name rest : List Char} {char : Char}

theorem beforeReference_cons (h : ¬opener <+: char :: chars) :
    beforeReference (char :: chars) =
      (char :: (beforeReference chars).1, (beforeReference chars).2) := by
  rw [beforeReference.eq_def]
  split
  · contradiction
  · next next rest heq =>
    obtain ⟨rfl, rfl⟩ := List.cons.inj heq
    have hnext : next ≠ opening := by
      rintro rfl
      exact h ⟨rest, rfl⟩
    simp [hnext]
  · next other rest _ heq =>
    obtain ⟨rfl, rfl⟩ := List.cons.inj heq
    rfl

theorem beforeReference_of_unopened (h : ¬opener <:+: chars) :
    beforeReference chars = (chars, none) := by
  induction chars with
  | nil => rfl
  | cons char chars ih =>
    rw [List.infix_cons_iff, not_or] at h
    rw [beforeReference_cons h.1, ih h.2]

/-- A dollar sign at the end of the text before a reference does not begin another one. -/
theorem not_begins_of_unopened (h : ¬opener <:+: char :: before) :
    ¬opener <+: char :: (before ++ opener ++ after) := by
  rw [List.infix_cons_iff, not_or] at h
  intro hprefix
  cases before with
  | nil => exact absurd hprefix (by simp [opener, opening])
  | cons next before =>
    rw [opener, List.cons_prefix_cons] at hprefix
    obtain ⟨rfl, hnext⟩ := hprefix
    rw [List.cons_append, List.cons_append, List.cons_prefix_cons] at hnext
    obtain ⟨rfl, _⟩ := hnext
    exact h.1 ⟨before, rfl⟩

/-- The first reference is the one that is found. -/
theorem beforeReference_append (h : ¬opener <:+: before) :
    beforeReference (before ++ opener ++ after) = (before, some after) := by
  induction before with
  | nil => rfl
  | cons char before ih =>
    have hbefore : ¬opener <:+: before := fun hinfix ↦ h (List.infix_cons hinfix)
    rw [List.cons_append, List.cons_append, beforeReference_cons (not_begins_of_unopened h),
      ih hbefore]

/-- A text has no reference, or a first one. -/
theorem exists_first_opener (chars : List Char) :
    ¬opener <:+: chars ∨
      ∃ before after, chars = before ++ opener ++ after ∧ ¬opener <:+: before := by
  induction chars with
  | nil => exact .inl (by simp [opener])
  | cons char chars ih =>
    by_cases hprefix : opener <+: char :: chars
    · obtain ⟨after, hafter⟩ := hprefix
      exact .inr ⟨[], after, hafter.symm, by simp [opener]⟩
    · rcases ih with hnone | ⟨before, after, rfl, hbefore⟩
      · exact .inl fun hinfix ↦ (List.infix_cons_iff.mp hinfix).elim hprefix hnone
      · refine .inr ⟨char :: before, after, rfl, fun hinfix ↦ ?_⟩
        rcases List.infix_cons_iff.mp hinfix with hstart | hrest
        · refine hprefix (hstart.trans ?_)
          rw [List.append_assoc]
          exact List.prefix_append (char :: before) _
        · exact hbefore hrest

theorem beforeClosing_of_not_mem (h : closing ∉ chars) : beforeClosing chars = none := by
  induction chars with
  | nil => rfl
  | cons char chars ih =>
    rw [List.mem_cons, not_or] at h
    simp [beforeClosing, Ne.symm h.1, ih h.2]

theorem beforeClosing_append (h : closing ∉ name) :
    beforeClosing (name ++ closing :: rest) = some (name, rest) := by
  induction name with
  | nil => simp [beforeClosing]
  | cons char name ih =>
    rw [List.mem_cons, not_or] at h
    simp [beforeClosing, Ne.symm h.1, ih h.2]

end

/-- What holds of the texts without a closed reference, and of a text that has one in front if it
holds of what is behind that, holds of all texts. -/
theorem reference_induction {motive : List Char → Prop}
    (plain : ∀ chars, ¬opener <:+: chars → motive chars)
    (unclosed : ∀ before after, ¬opener <:+: before → closing ∉ after →
      motive (before ++ opener ++ after))
    (reference : ∀ before name rest, ¬opener <:+: before → closing ∉ name → motive rest →
      motive (before ++ opener ++ (name ++ closing :: rest)))
    (chars : List Char) : motive chars := by
  induction hlength : chars.length using Nat.strongRecOn generalizing chars with
  | ind length ih =>
    rcases exists_first_opener chars with hnone | ⟨before, after, rfl, hbefore⟩
    · exact plain chars hnone
    by_cases hclosing : closing ∈ after
    · obtain ⟨name, rest, rfl, hname⟩ := List.eq_append_cons_of_mem hclosing
      have hrest : rest.length < length := by
        simp only [List.length_append, List.length_cons] at hlength
        omega
      exact reference before name rest hbefore hname (ih rest.length hrest rest rfl)
    · exact unclosed before after hbefore hclosing

/-! ## All references -/

/-- A text as expansion sees it: references, each with the text before it, the text behind the last
of them, and what is left over by a reference that is not closed. -/
structure Parts where
  references : List (String × String)
  last : String
  unclosed : String
  deriving DecidableEq, Repr

namespace Parts

/-- The text with something in the place of every reference. -/
def fill (parts : Parts) (value : String → String) : String :=
  parts.references.foldr (fun reference rest ↦ reference.1 ++ value reference.2 ++ rest)
    (parts.last ++ parts.unclosed)

def text (parts : Parts) : String := parts.fill fun name ↦ "$\x7b" ++ name ++ "\x7d"

def expanded (parts : Parts) (lookup : String → Option String) : String :=
  parts.fill fun name ↦ (lookup name).getD ""

/-- No text before or behind a reference begins another one, every name ends at the first closing
brace, and what is left over is begun and never closed. -/
structure Proper (parts : Parts) : Prop where
  before : ∀ reference ∈ parts.references, ¬opener <:+: reference.1.toList
  name : ∀ reference ∈ parts.references, closing ∉ reference.2.toList
  last : ¬opener <:+: parts.last.toList
  unclosed : parts.unclosed = "" ∨
    opener <+: parts.unclosed.toList ∧ closing ∉ parts.unclosed.toList

def cons (reference : String × String) (parts : Parts) : Parts :=
  { parts with references := reference :: parts.references }

/-- The parts in which a text falls. -/
def ofChars (chars : List Char) : Parts :=
  match _hr : beforeReference chars with
  | (before, none) => ⟨[], .ofList before, ""⟩
  | (before, some after) =>
    match _hc : beforeClosing after with
    | none => ⟨[], .ofList before, .ofList (opener ++ after)⟩
    | some (name, rest) => (ofChars rest).cons (.ofList before, .ofList name)
termination_by chars.length
decreasing_by
  have := @length_beforeReference chars after (by rw [_hr])
  have := length_beforeClosing _hc
  omega

section

variable {chars before after name rest : List Char} {parts : Parts}

theorem fill_cons (reference : String × String) (parts : Parts) (value : String → String) :
    (parts.cons reference).fill value = reference.1 ++ value reference.2 ++ parts.fill value := rfl

theorem ofChars_of_unopened (h : ¬opener <:+: chars) :
    ofChars chars = ⟨[], .ofList chars, ""⟩ := by
  have hr := beforeReference_of_unopened h
  rw [ofChars]
  split <;> simp_all

/-- A reference that is never closed is left over with all that follows it. -/
theorem ofChars_unclosed (hbefore : ¬opener <:+: before) (h : closing ∉ after) :
    ofChars (before ++ opener ++ after) = ⟨[], .ofList before, .ofList (opener ++ after)⟩ := by
  have hr : beforeReference (before ++ opener ++ after) = (before, some after) :=
    beforeReference_append hbefore
  have hc := beforeClosing_of_not_mem h
  rw [ofChars]
  split
  · simp_all
  · split <;> simp_all

/-- A closed reference is taken off the front with the text before it. -/
theorem ofChars_reference (hbefore : ¬opener <:+: before) (h : closing ∉ name) :
    ofChars (before ++ opener ++ (name ++ closing :: rest)) =
      (ofChars rest).cons (.ofList before, .ofList name) := by
  have hr : beforeReference (before ++ opener ++ (name ++ closing :: rest)) =
      (before, some (name ++ closing :: rest)) := beforeReference_append hbefore
  have hc : beforeClosing (name ++ closing :: rest) = some (name, rest) := beforeClosing_append h
  rw [ofChars]
  split
  · simp_all
  · split <;> simp_all

theorem Proper.cons (proper : parts.Proper) (hbefore : ¬opener <:+: before)
    (hname : closing ∉ name) : (parts.cons (.ofList before, .ofList name)).Proper := by
  refine ⟨?_, ?_, proper.last, proper.unclosed⟩
  · exact List.forall_mem_cons.mpr ⟨by rwa [String.toList_ofList], proper.before⟩
  · exact List.forall_mem_cons.mpr ⟨by rwa [String.toList_ofList], proper.name⟩

/-- The parts in which a text falls are proper. -/
theorem proper_ofChars (chars : List Char) : (ofChars chars).Proper := by
  induction chars using reference_induction with
  | plain chars h =>
    rw [ofChars_of_unopened h]
    exact ⟨nofun, nofun, by rwa [String.toList_ofList], .inl rfl⟩
  | unclosed before after hbefore h =>
    rw [ofChars_unclosed hbefore h]
    refine ⟨nofun, nofun, by rwa [String.toList_ofList], .inr ?_⟩
    rw [String.toList_ofList]
    have hopener : closing ∉ opener := by decide
    exact ⟨List.prefix_append opener after, by simp [hopener, h]⟩
  | reference before name rest hbefore hname ih =>
    rw [ofChars_reference hbefore hname]
    exact ih.cons hbefore hname

/-- Nothing of a text is lost in its parts. -/
theorem text_ofChars (chars : List Char) : (ofChars chars).text.toList = chars := by
  induction chars using reference_induction with
  | plain chars h =>
    rw [ofChars_of_unopened h]
    simp [text, fill]
  | unclosed before after hbefore h =>
    rw [ofChars_unclosed hbefore h]
    simp [text, fill]
  | reference before name rest hbefore hname ih =>
    rw [ofChars_reference hbefore hname, text, fill_cons]
    simp only [String.toList_append, String.toList_ofList]
    rw [← text, ih]
    simp [opener, opening, closing]

/-- The parts in which a text falls are found in it. -/
theorem Proper.ofChars_text (proper : parts.Proper) : ofChars parts.text.toList = parts := by
  obtain ⟨references, last, unclosed⟩ := parts
  induction references with
  | nil =>
    have htext : (Parts.mk [] last unclosed).text.toList = last.toList ++ unclosed.toList :=
      String.toList_append
    rcases proper.unclosed with rfl | ⟨⟨after, hafter⟩, hclosing⟩
    · rw [htext, String.toList_empty, List.append_nil, ofChars_of_unopened proper.last,
        String.ofList_toList]
    · have hrest : closing ∉ after := by
        rw [← hafter] at hclosing
        exact fun hmem ↦ hclosing (List.mem_append_right opener hmem)
      rw [htext, ← hafter, ← List.append_assoc, ofChars_unclosed proper.last hrest, hafter,
        String.ofList_toList, String.ofList_toList]
  | cons reference references ih =>
    obtain ⟨hbefore, hothers⟩ := List.forall_mem_cons.mp proper.before
    obtain ⟨hname, hnames⟩ := List.forall_mem_cons.mp proper.name
    have hrest := ih ⟨hothers, hnames, proper.last, proper.unclosed⟩
    have htext : (Parts.mk (reference :: references) last unclosed).text.toList =
        reference.1.toList ++ opener ++
          (reference.2.toList ++ closing :: (Parts.mk references last unclosed).text.toList) := by
      change ((Parts.cons reference ⟨references, last, unclosed⟩).fill _).toList = _
      rw [fill_cons]
      simp only [String.toList_append, List.append_assoc]
      rfl
    rw [htext, ofChars_reference hbefore hname, hrest, String.ofList_toList, String.ofList_toList]
    rfl

end

/-- Expanding a text fills its references with their values and leaves all else. -/
theorem expandChars_eq (lookup : String → Option String) (chars : List Char) :
    expandChars lookup chars = ((ofChars chars).expanded lookup).toList := by
  fun_induction ofChars chars with
  | case1 chars before hr =>
    rw [expandChars]
    split <;> simp_all [expanded, fill]
  | case2 chars before after hr hc =>
    rw [expandChars]
    split
    · simp_all
    · split <;> simp_all [expanded, fill, opener]
  | case3 chars before after hr name rest hc ih =>
    rw [expandChars]
    split
    · simp_all
    · split <;> simp_all [expanded, fill_cons]

/-- The values of the names are all that matters of a look-up. -/
theorem expanded_congr (parts : Parts) {lookup other : String → Option String}
    (agree : ∀ reference ∈ parts.references,
      (lookup reference.2).getD "" = (other reference.2).getD "") :
    parts.expanded lookup = parts.expanded other := by
  unfold expanded fill
  refine List.foldr_ext _ _ _ fun reference hmem rest ↦ ?_
  simp only [agree reference hmem]

end Parts

/-- A text falls in parts in exactly one way, and expanding it puts the value of each name, or
nothing if it has none, in the place of its reference, once, and keeps all other parts as they are.
Nothing but the values of these names matters. -/
theorem expands_in_one_pass (text : String) :
    (∃! parts : Parts, parts.Proper ∧ parts.text = text) ∧
    ∀ parts : Parts, parts.Proper → parts.text = text →
      (∀ lookup, expand lookup text = parts.expanded lookup) ∧
      ∀ lookup other : String → Option String,
        (∀ reference ∈ parts.references,
          (lookup reference.2).getD "" = (other reference.2).getD "") →
        expand lookup text = expand other text := by
  have hfound (parts : Parts) (proper : parts.Proper) (htext : parts.text = text) :
      Parts.ofChars text.toList = parts := by
    rw [← htext]
    exact proper.ofChars_text
  refine ⟨⟨Parts.ofChars text.toList, ⟨Parts.proper_ofChars _, ?_⟩, ?_⟩, ?_⟩
  · rw [← String.toList_inj]
    exact Parts.text_ofChars _
  · rintro other ⟨proper, htext⟩
    exact (hfound other proper htext).symm
  · intro parts proper htext
    have hexpand (lookup : String → Option String) :
        expand lookup text = parts.expanded lookup := by
      rw [expand, Parts.expandChars_eq, hfound parts proper htext, String.ofList_toList]
    refine ⟨hexpand, fun lookup other agree ↦ ?_⟩
    rw [hexpand, hexpand, parts.expanded_congr agree]

/-- A value that looks like a reference stays as it is, and so do single signs and what is not
closed; a name may hold an opening. -/
example : expand (fun name ↦ if name = "A" then some "$\x7bB\x7d" else none)
    "$$\x7bA\x7dé$\x7bx$\x7by\x7d\x7d$ $\x7bA" = "$$\x7bB\x7dé\x7d$ $\x7bA" := by
  cbv

end Supervision.Expansion
