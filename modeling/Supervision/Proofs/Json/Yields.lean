import Supervision.Json.Typed

/-!
# What a reader may give

Whatever document it is given, a reader that comes to a value gives one of its kind.  Lists, records
and optional values are of a kind if their parts are, so that what holds of every value that can be
read is seen from the readers alone.
-/

namespace Supervision.Json.Reader

variable {α β σ : Type}

/-- Every value that the reader gives is of a kind. -/
def Yields (reader : Reader α) (kind : α → Prop) : Prop :=
  ∀ cursor value after, reader cursor = .ok value after → kind value

namespace Yields

variable {kind : α → Prop} {result : β → Prop}

theorem pure {value : α} (h : kind value) : Yields (Pure.pure value) kind := by
  intro cursor other after hread
  cases hread
  exact h

theorem failHere (cause : Cause) : (failHere cause).Yields kind := nofun

theorem failNext (cause : Cause) : (failNext cause).Yields kind := nofun

theorem failUnplaced (cause : Cause) : (failUnplaced cause).Yields kind := nofun

/-- The rest of a reader may rely on what its first step yields. -/
theorem bind {first : Reader α} {next : α → Reader β} (hfirst : first.Yields kind)
    (hnext : ∀ value, kind value → (next value).Yields result) :
    (first >>= next).Yields result := by
  intro cursor value after h
  simp only [Bind.bind, EStateM.bind] at h
  split at h
  · next middle between hmiddle => exact hnext middle (hfirst _ _ _ hmiddle) _ _ _ h
  · cases h

theorem anything (reader : Reader α) : reader.Yields fun _ ↦ True := fun _ _ _ _ ↦ trivial

/-- What is read last decides. -/
theorem last {first : Reader α} {next : α → Reader β}
    (hnext : ∀ value, (next value).Yields result) : (first >>= next).Yields result :=
  bind (anything first) fun value _ ↦ hnext value

theorem map {reader : Reader α} {f : α → β} (h : reader.Yields fun value ↦ result (f value)) :
    Yields (f <$> reader) result := by
  intro cursor value after hread
  simp only [Functor.map, EStateM.map] at hread
  split at hread
  · next hvalue =>
    cases hread
    exact h _ _ _ hvalue
  · cases hread

theorem placed {reader : Reader α} (h : reader.Yields kind) : (placed reader).Yields kind := by
  intro cursor value after hread
  simp only [Reader.placed] at hread
  split at hread
  · next hvalue =>
    cases hread
    exact h _ _ _ hvalue
  · cases hread

theorem enclosed {inside : Reader α} {close : Reader Unit} (h : inside.Yields kind) :
    (enclosed inside close).Yields kind := by
  intro cursor value after hread
  simp only [Reader.enclosed] at hread
  split at hread
  · next hvalue =>
    split at hread
    · cases hread
      exact h _ _ _ hvalue
    · cases hread
  · split at hread <;> cases hread

/-- A value of the wrong type is never given. -/
theorem wrongType (expected : String) : (wrongType expected).Yields kind := by
  apply placed
  apply last
  intro next
  have hfail (cause : Cause) : (Reader.failUnplaced cause).Yields kind := failUnplaced cause
  split
  · exact last fun _ ↦ last fun _ ↦ hfail _
  · exact last fun _ ↦ last fun _ ↦ hfail _
  · exact last fun _ ↦ last fun _ ↦ hfail _
  · exact last fun _ ↦ last fun _ ↦ hfail _
  · exact last fun _ ↦ last fun _ ↦ hfail _
  · exact hfail _
  · exact hfail _
  · split
    · exact last fun _ ↦ hfail _
    · exact failNext _
  · exact failNext _

theorem optional {reader : Reader α} (h : reader.Yields kind) :
    (optional reader).Yields fun value ↦ ∀ content ∈ value, kind content := by
  apply last
  intro next
  split
  · exact last fun _ ↦ last fun _ ↦ pure nofun
  · exact map fun cursor value after hread ↦ by
      simpa using h cursor value after hread

theorem elements {element : Reader α} (h : element.Yields kind) (fuel : Nat) (first : Bool)
    {done : List α} (hdone : ∀ value ∈ done, kind value) :
    (elements element fuel first done).Yields fun values ↦ ∀ value ∈ values, kind value := by
  induction fuel generalizing first done with
  | zero => exact failNext _
  | succ fuel ih =>
    apply last
    intro more
    split
    · exact bind h fun value hvalue ↦ ih false (List.forall_mem_cons.mpr ⟨hvalue, hdone⟩)
    · exact pure fun value hvalue ↦ hdone value (List.mem_reverse.mp hvalue)

/-- If all elements are of a kind, so is the list. -/
theorem list {element : Reader α} (h : element.Yields kind) :
    (list element).Yields fun values ↦ ∀ value ∈ values, kind value := by
  apply placed
  apply last
  intro next
  split
  · exact failNext _
  · exact enclosed (last fun _ ↦ last fun _ ↦ elements h _ _ nofun)
  · exact wrongType _

end Yields

/-- A member keeps a record of its kind, whether it is read or left out. -/
structure Member.Keeps (member : Member σ) (kind : σ → Prop) : Prop where
  read : ∀ record, kind record → (member.read record).Yields kind
  absent : ∀ record next, kind record → member.absent record = .ok next → kind next
  short : ∀ record next, kind record → member.short record = some next → kind next

namespace Member.Keeps

variable {kind : σ → Prop} {content : α → Prop} {name : String} {get : σ → Option α}
  {set : α → σ → σ} {reader : Reader α}

theorem required (h : reader.Yields content)
    (hset : ∀ value record, content value → kind record → kind (set value record)) :
    (Member.required name get set reader).Keeps kind where
  read record hrecord := .map fun cursor value after hread ↦
    hset value record (h cursor value after hread) hrecord
  absent _ _ _ h := nomatch h
  short _ _ _ h := nomatch h

/-- A member keeps the kind, even where it is left out, if its default is of the kind. -/
theorem orElse {default : α} (h : reader.Yields content) (hdefault : content default)
    (hset : ∀ value record, content value → kind record → kind (set value record)) :
    (Member.orElse name get set default reader).Keeps kind where
  read record hrecord := .map fun cursor value after hread ↦
    hset value record (h cursor value after hread) hrecord
  absent record next hrecord h := by
    cases h
    exact hset default record hdefault hrecord
  short record next hrecord h := by
    cases h
    exact hset default record hdefault hrecord

end Member.Keeps

namespace Yields

variable {kind : σ → Prop} {members : List (Member σ)} {draft : σ}

/-- Members that keep a kind keep it in whatever order they come. -/
theorem objectMembers (keep : ∀ member ∈ members, member.Keeps kind) (fuel : Nat) (first : Bool)
    (h : kind draft) : (objectMembers members fuel first draft).Yields kind := by
  induction fuel generalizing first draft with
  | zero => exact failNext _
  | succ fuel ih =>
    apply last
    intro more
    split
    · apply last
      intro name
      split
      · next member hmember =>
        split
        · exact failUnplaced _
        · have hkeep := keep member (List.mem_of_find?_eq_some hmember)
          exact last fun _ ↦ bind (hkeep.read draft h) fun next hnext ↦ ih false hnext
      · exact last fun _ ↦ last fun _ ↦ ih false h
    · exact pure h

theorem settleMembers (keep : ∀ member ∈ members, member.Keeps kind) (h : kind draft) :
    (settleMembers members draft).Yields kind := by
  induction members generalizing draft with
  | nil => exact pure h
  | cons member members ih =>
    obtain ⟨hmember, hmembers⟩ := List.forall_mem_cons.mp keep
    rw [Reader.settleMembers]
    split
    · exact ih hmembers h
    split
    · next next habsent => exact ih hmembers (hmember.absent draft next h habsent)
    · exact failUnplaced _

theorem listMembers (keep : ∀ member ∈ members, member.Keeps kind) (expected : String) (index : Nat)
    (first : Bool) (h : kind draft) :
    (listMembers expected index first members draft).Yields kind := by
  induction members generalizing draft index first with
  | nil => exact pure h
  | cons member members ih =>
    obtain ⟨hmember, hmembers⟩ := List.forall_mem_cons.mp keep
    apply last
    intro more
    split
    · exact bind (hmember.read draft h) fun next hnext ↦ ih hmembers (index + 1) false hnext
    split
    · next next hshort => exact ih hmembers (index + 1) first (hmember.short draft next h hshort)
    · exact failUnplaced _

/-- A record is of a kind that its blank has and its members keep. -/
theorem record {expected : String} {blank : σ} (keep : ∀ member ∈ members, member.Keeps kind)
    (h : kind blank) : (record expected members blank).Yields kind := by
  apply placed
  apply last
  intro next
  split
  · exact failNext _
  · exact enclosed (last fun _ ↦ listMembers keep _ _ _ h)
  · refine enclosed (last fun _ ↦ last fun _ ↦ ?_)
    exact bind (objectMembers keep _ _ h) fun _ hrecord ↦ settleMembers keep hrecord
  · exact wrongType _

/-- A document that is read gives a value of the kind. -/
theorem of_read {reader : Reader α} {content : α → Prop} {document : Bytes} {value : α}
    (h : reader.Yields content) (hread : reader.read document = .ok value) : content value := by
  have hwhole : (do let value ← reader; finish; Pure.pure value : Reader α).Yields content :=
    bind h fun value hvalue ↦ last fun _ ↦ pure hvalue
  simp only [read] at hread
  split at hread
  · next hvalue =>
    cases hread
    exact hwhole _ _ _ hvalue
  · cases hread

end Yields

end Supervision.Json.Reader
