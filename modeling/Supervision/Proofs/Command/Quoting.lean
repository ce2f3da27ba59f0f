import Supervision.CommandLine

/-!
# Quoting

A word is quoted so that it is read as itself: a plain word character by character, any other between
apostrophes, where only the apostrophe means anything.  Words that are joined are therefore read as
the same words, and the text of a command line tells its program and its arguments.
-/

namespace Supervision.Command

/-- The character means nothing to a reader of commands, so it is written as it is. -/
def IsPlain (char : Char) : Prop := char ∉ specials

namespace Scan

theorem step_between {char : Char} (plain : IsPlain char) (words : List String) :
    step ⟨.between, [], words⟩ char = ⟨.bare, [char], words⟩ := by
  simp only [IsPlain, specials, List.mem_cons, not_or] at plain
  simp [step, push, isSeparator, plain]

theorem step_bare {char : Char} (plain : IsPlain char) (word : List Char) (words : List String) :
    step ⟨.bare, word, words⟩ char = ⟨.bare, char :: word, words⟩ := by
  simp only [IsPlain, specials, List.mem_cons, not_or] at plain
  simp [step, push, isSeparator, plain]

theorem foldl_step_bare {chars : List Char} (plain : ∀ char ∈ chars, IsPlain char)
    (word : List Char) (words : List String) :
    chars.foldl step ⟨.bare, word, words⟩ = ⟨.bare, chars.reverse ++ word, words⟩ := by
  induction chars generalizing word with
  | nil => rfl
  | cons char chars ih =>
    have hchar : IsPlain char := plain char List.mem_cons_self
    have hchars : ∀ other ∈ chars, IsPlain other := fun other h ↦
      plain other (List.mem_cons_of_mem char h)
    rw [List.foldl_cons, step_bare hchar, ih hchars, List.reverse_cons, List.append_assoc,
      List.singleton_append]

/-- A plain word is read as it stands. -/
theorem foldl_step_plain {char : Char} {chars : List Char}
    (plain : ∀ other ∈ char :: chars, IsPlain other) (words : List String) :
    (char :: chars).foldl step ⟨.between, [], words⟩ =
      ⟨.bare, (char :: chars).reverse, words⟩ := by
  have hchar : IsPlain char := plain char List.mem_cons_self
  have hchars : ∀ other ∈ chars, IsPlain other := fun other h ↦
    plain other (List.mem_cons_of_mem char h)
  rw [List.foldl_cons, step_between hchar, foldl_step_bare hchars, List.reverse_cons]

/-- Between apostrophes an apostrophe leaves the quotation, is escaped and enters it again; nothing
else is noticed. -/
theorem foldl_step_quoteChar (char : Char) (word : List Char) (words : List String) :
    (quoteChar char).foldl step ⟨.single, word, words⟩ = ⟨.single, char :: word, words⟩ := by
  unfold quoteChar
  by_cases h : char = apostrophe
  · subst h
    rfl
  · simp [h, step, push]

/-- Inside apostrophes every character is read back, an apostrophe by way of the outside. -/
theorem foldl_step_single (chars : List Char) (word : List Char) (words : List String) :
    (chars.flatMap quoteChar).foldl step ⟨.single, word, words⟩ =
      ⟨.single, chars.reverse ++ word, words⟩ := by
  induction chars generalizing word with
  | nil => rfl
  | cons char chars ih =>
    rw [List.flatMap_cons, List.foldl_append, foldl_step_quoteChar, ih, List.reverse_cons,
      List.append_assoc, List.singleton_append]

/-- After a quoted word the reader has the word itself under way. -/
theorem foldl_step_quote (word : String) (words : List String) :
    (quote word).toList.foldl step ⟨.between, [], words⟩ =
      ⟨.bare, word.toList.reverse, words⟩ := by
  unfold quote
  split
  case isTrue =>
    calc
      _ = ((word.toList.flatMap quoteChar).foldl step ⟨.single, [], words⟩).step apostrophe := by
        rw [String.toList_ofList, List.cons_append, List.foldl_cons, List.foldl_append]
        rfl
      _ = (⟨.single, word.toList.reverse, words⟩ : Scan).step apostrophe := by
        rw [foldl_step_single, List.append_nil]
      _ = ⟨.bare, word.toList.reverse, words⟩ := rfl
  case isFalse hplain =>
    have hplain : ∀ char ∈ word.toList, IsPlain char := by
      simp only [Bool.or_eq_true, not_or, List.any_eq_true, List.contains_iff_mem] at hplain
      exact fun char hmem hspecial ↦ hplain.2 ⟨char, hmem, hspecial⟩
    cases hword : word.toList with
    | nil => simp [hword] at *
    | cons char chars => exact foldl_step_plain (hword ▸ hplain) words

/-- Joined words are read one after another, behind the words that were read before. -/
theorem finish_foldl_join (words before : List String) :
    ((join words).toList.foldl step ⟨.between, [], before⟩).finish =
      some (before.reverse ++ words) := by
  induction words generalizing before with
  | nil => simp [join, finish]
  | cons word words ih =>
    cases words with
    | nil =>
      have hjoin : join [word] = quote word := String.intercalate_singleton
      rw [hjoin, foldl_step_quote]
      simp [finish, close]
    | cons next words =>
      have hjoin : join (word :: next :: words) = quote word ++ " " ++ join (next :: words) :=
        String.intercalate_cons_cons
      have hblank : (⟨.bare, word.toList.reverse, before⟩ : Scan).step ' ' =
          ⟨.between, [], word :: before⟩ := by
        simp [step, apostrophe, isSeparator, close]
      calc
        _ = ((join (next :: words)).toList.foldl step
              ((⟨.bare, word.toList.reverse, before⟩ : Scan).step ' ')).finish := by
          rw [hjoin, String.toList_append, String.toList_append, List.foldl_append,
            List.foldl_append, foldl_step_quote]
          rfl
        _ = some ((word :: before).reverse ++ next :: words) := by rw [hblank, ih]
        _ = some (before.reverse ++ word :: next :: words) := by simp

end Scan

/-- Words that are joined are read as the same words. -/
theorem split_join (words : List String) : split (join words) = some words :=
  Scan.finish_foldl_join words []

end Supervision.Command

namespace Supervision.CommandLine

/-- The text of a command line is read as its program and its arguments, under any name. -/
theorem parse_text (line : CommandLine) (name : String) :
    parse name line.text = .ok ⟨line.program, line.arguments, .empty, none⟩ := by
  unfold parse text
  rw [Command.split_join]

/-- What was read has no variables and no directory of its own. -/
theorem eq_of_parse {name command : String} {line : CommandLine}
    (h : parse name command = .ok line) : line = ⟨line.program, line.arguments, .empty, none⟩ := by
  unfold parse at h
  split at h
  · cases h
  · cases h
  · cases h
    rfl

/-- A command line that is shown reads back: as the same program and the same arguments, under any
name, so what was read once is read again from its text, and the text tells the two apart from any
others. -/
theorem text_reads_back :
    (∀ (line : CommandLine) (name : String),
      parse name line.text = .ok ⟨line.program, line.arguments, .empty, none⟩) ∧
    (∀ name command other : String,
      (do let line ← parse name command; parse other line.text) = parse name command) ∧
    (∀ first second : CommandLine, first.text = second.text ↔
      first.program = second.program ∧ first.arguments = second.arguments) := by
  refine ⟨parse_text, ?_, ?_⟩
  · intro name command other
    cases h : parse name command with
    | error failure => rfl
    | ok line =>
      rw [eq_of_parse h]
      exact parse_text line other
  · intro first second
    constructor
    · intro h
      have hparse := parse_text first ""
      rw [h, parse_text second ""] at hparse
      simp only [Except.ok.injEq, mk.injEq] at hparse
      exact ⟨hparse.1.symm, hparse.2.1.symm⟩
    · rintro ⟨hprogram, harguments⟩
      unfold text
      rw [hprogram, harguments]

end Supervision.CommandLine
