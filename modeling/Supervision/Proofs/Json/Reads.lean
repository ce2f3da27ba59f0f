import Supervision.Json.Cursor

/-!
# What a reader takes

A reader reads a text as a value if it takes the text off the front of whatever remains of a document
and gives the value, provided that what follows lets the text end there.  Places play no part in this,
so a cursor counts only by what remains.
-/

namespace Supervision.Json

namespace Cursor

theorem rest_advance {cursor : Cursor} {byte : UInt8} {rest : Bytes}
    (h : cursor.rest = byte :: rest) : cursor.advance.rest = rest := by
  unfold advance
  rw [h]
  simp only
  split <;> rfl

theorem rest_advanceBy (cursor : Cursor) (count : Nat) :
    (cursor.advanceBy count).rest = cursor.rest.drop count := by
  induction count generalizing cursor with
  | zero => rfl
  | succ count ih =>
    rw [advanceBy, ih]
    cases h : cursor.rest with
    | nil =>
      have hstays : cursor.advance = cursor := by
        unfold advance
        rw [h]
      rw [hstays, h, List.drop_nil, List.drop_nil]
    | cons byte rest => rw [rest_advance h, List.drop_succ_cons]

theorem skipGaps_of_token {cursor : Cursor} {byte : UInt8} {rest : Bytes}
    (h : cursor.rest = byte :: rest) (token : isGap byte = false) : cursor.skipGaps = cursor := by
  rw [skipGaps]
  split
  · rfl
  · next other _ heq =>
    rw [h] at heq
    cases heq
    rw [if_neg (by simp [token])]

end Cursor

/-- What follows begins with a byte. -/
def StartsWith (byte : UInt8) (rest : Bytes) : Prop := rest.head? = some byte

@[simp]
theorem startsWith_cons {byte other : UInt8} {rest : Bytes} :
    StartsWith byte (other :: rest) ↔ other = byte := by
  simp [StartsWith]

theorem StartsWith.append {byte : UInt8} {text : Bytes} (h : StartsWith byte text) (rest : Bytes) :
    StartsWith byte (text ++ rest) := by
  rw [StartsWith, List.head?_append, h]
  rfl

namespace Reader

variable {α β : Type} {follows : Bytes → Prop}

/-- A reader takes a text and gives a value, where what remains after it is as the text needs it. -/
def Reads (reader : Reader α) (follows : Bytes → Prop) (text : Bytes) (value : α) : Prop :=
  ∀ (cursor : Cursor) (rest : Bytes), cursor.rest = text ++ rest → follows rest →
    ∃ after, reader cursor = .ok value after ∧ after.rest = rest

namespace Reads

theorem pure (value : α) : Reads (Pure.pure value) follows [] value :=
  fun cursor _ hcursor _ ↦ ⟨cursor, rfl, hcursor⟩

/-- One text after another, where the second lets the first end. -/
theorem bind {first : Reader α} {next : α → Reader β} {middle : Bytes → Prop}
    {text more : Bytes} {value : α} {result : β} (hfirst : first.Reads middle text value)
    (hnext : (next value).Reads follows more result)
    (hends : ∀ rest, follows rest → middle (more ++ rest)) :
    (first >>= next).Reads follows (text ++ more) result := by
  intro cursor rest hcursor hfollows
  rw [List.append_assoc] at hcursor
  obtain ⟨between, hbetween, hrest⟩ := hfirst cursor (more ++ rest) hcursor (hends rest hfollows)
  obtain ⟨after, hafter, hlast⟩ := hnext between rest hrest hfollows
  refine ⟨after, ?_, hlast⟩
  calc
    (first >>= next) cursor = next value between := by
      simp only [Bind.bind, EStateM.bind, hbetween]
    _ = .ok result after := hafter

/-- One text after another, where the first may end anywhere. -/
theorem followed {first : Reader α} {next : α → Reader β} {text more : Bytes} {value : α}
    {result : β} (hfirst : first.Reads (fun _ ↦ True) text value)
    (hnext : (next value).Reads follows more result) :
    (first >>= next).Reads follows (text ++ more) result :=
  bind hfirst hnext fun _ _ ↦ trivial

theorem map {reader : Reader α} {text : Bytes} {value : α} (h : reader.Reads follows text value)
    (f : α → β) : Reads (f <$> reader) follows text (f value) := by
  intro cursor rest hcursor hfollows
  obtain ⟨after, hafter, hrest⟩ := h cursor rest hcursor hfollows
  exact ⟨after, by simp only [Functor.map, EStateM.map, hafter], hrest⟩

theorem placed {reader : Reader α} {text : Bytes} {value : α}
    (h : reader.Reads follows text value) : (Reader.placed reader).Reads follows text value := by
  intro cursor rest hcursor hfollows
  obtain ⟨after, hafter, hrest⟩ := h cursor rest hcursor hfollows
  exact ⟨after, by simp only [Reader.placed, hafter], hrest⟩

/-- Where the closing bracket lets the text inside end. -/
theorem enclosed {inside : Reader α} {close : Reader Unit} {text : Bytes} {value : α}
    (bracket : UInt8) (hinside : inside.Reads (StartsWith bracket) text value)
    (hclose : close.Reads follows [bracket] ()) :
    (Reader.enclosed inside close).Reads follows (text ++ [bracket]) value := by
  intro cursor rest hcursor hfollows
  rw [List.append_assoc] at hcursor
  obtain ⟨between, hbetween, hrest⟩ := hinside cursor _ hcursor (startsWith_cons.mpr rfl)
  obtain ⟨after, hafter, hlast⟩ := hclose between rest hrest hfollows
  exact ⟨after, by simp only [Reader.enclosed, hbetween, hafter], hlast⟩

/-- Looking at the next byte, which is no blank, takes nothing. -/
theorem peekToken {next : Option UInt8 → Reader α} {text : Bytes} {value : α} (byte : UInt8)
    (token : Cursor.isGap byte = false)
    (first : ∀ rest, follows rest → StartsWith byte (text ++ rest))
    (h : (next (some byte)).Reads follows text value) :
    (Reader.peekToken >>= next).Reads follows text value := by
  intro cursor rest hcursor hfollows
  obtain ⟨more, hmore⟩ := List.head?_eq_some_iff.mp (first rest hfollows)
  have hskip : cursor.skipGaps = cursor := cursor.skipGaps_of_token (hcursor.trans hmore) token
  obtain ⟨after, hafter, hrest⟩ := h cursor rest hcursor hfollows
  refine ⟨after, ?_, hrest⟩
  calc
    (Reader.peekToken >>= next) cursor = next (some byte) cursor := by
      simp only [Bind.bind, EStateM.bind, Reader.peekToken, hskip, hcursor.trans hmore,
        List.head?_cons]
    _ = .ok value after := hafter

theorem peekToken_cons {next : Option UInt8 → Reader α} {text : Bytes} {value : α} {byte : UInt8}
    (token : Cursor.isGap byte = false) (h : (next (some byte)).Reads follows (byte :: text) value) :
    (Reader.peekToken >>= next).Reads follows (byte :: text) value :=
  peekToken byte token (fun _ _ ↦ startsWith_cons.mpr rfl) h

theorem skip (byte : UInt8) : Reader.skip.Reads follows [byte] () :=
  fun cursor _ hcursor _ ↦ ⟨cursor.advance, rfl, Cursor.rest_advance hcursor⟩

/-- Taking the next byte and going on. -/
theorem skip_bind {next : Unit → Reader α} {text : Bytes} {value : α} {byte : UInt8}
    (h : (next ()).Reads follows text value) :
    (Reader.skip >>= next).Reads follows (byte :: text) value :=
  followed (skip byte) h

theorem expectBytes (text : Bytes) : (Reader.expectBytes text).Reads follows text () := by
  induction text with
  | nil => exact pure ()
  | cons byte text ih =>
    intro cursor rest hcursor hfollows
    have hadvance : cursor.advance.rest = text ++ rest := Cursor.rest_advance hcursor
    obtain ⟨after, hafter, hrest⟩ := ih cursor.advance rest hadvance hfollows
    refine ⟨after, ?_, hrest⟩
    calc
      Reader.expectBytes (byte :: text) cursor = Reader.expectBytes text cursor.advance := by
        simp only [Reader.expectBytes, Bind.bind, EStateM.bind, take, hcursor, List.cons_append,
          List.head?_cons, if_true]
      _ = .ok () after := hafter

/-- Asking how much remains takes nothing, and there is no less than the text. -/
theorem remaining {next : Nat → Reader α} {text : Bytes} {value : α}
    (h : ∀ count, text.length ≤ count → (next count).Reads follows text value) :
    (Reader.remaining >>= next).Reads follows text value := by
  intro cursor rest hcursor hfollows
  have hcount : text.length ≤ cursor.rest.length := by
    rw [hcursor, List.length_append]
    omega
  exact h cursor.rest.length hcount cursor rest hcursor hfollows

/-- A text that is all of a document. -/
theorem read_eq {reader : Reader α} {text : Bytes} {value : α} (h : reader.Reads follows text value)
    (ends : follows []) : reader.read text = .ok value := by
  obtain ⟨after, hafter, hrest⟩ := h (.ofBytes text) [] (List.append_nil _).symm ends
  have hskip : after.skipGaps = after := by
    rw [Cursor.skipGaps]
    split
    · rfl
    · simp_all
  simp only [read, Bind.bind, EStateM.bind, hafter, finish, Reader.peekToken, hskip, hrest,
    List.head?_nil, Pure.pure, EStateM.pure]

end Reads

end Reader

end Supervision.Json
