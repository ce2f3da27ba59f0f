import Supervision.Proofs.Json.Scalars
import Mathlib.Data.List.Forall2

/-!
# Documents that a reader accepts

A reader accepts a document for a value if it reads the compact text of the document as that value.
Lists, records and variants are accepted if their parts are, so that what a type writes is read back by
putting together what its parts write.
-/

namespace Supervision.Json

theorem compactElements_eq (elements : List Json) :
    compactElements elements = elements.map compact := by
  induction elements with
  | nil => rfl
  | cons element rest ih => rw [compactElements, ih, List.map_cons]

def compactMember (member : String × Json) : Bytes :=
  writeString member.1 ++ 0x3a :: compact member.2

theorem length_compactMember_pos (member : String × Json) : 0 < (compactMember member).length :=
  Nat.succ_pos _

theorem compactMembers_eq (members : List (String × Json)) :
    compactMembers members = members.map compactMember := by
  induction members with
  | nil => rfl
  | cons member rest ih => rw [compactMembers, ih, List.map_cons, compactMember]

/-- The parts after the first, each with a comma before it. -/
def afterCommas (parts : List Bytes) : Bytes := parts.flatMap (0x2c :: ·)

theorem separated_cons (part : Bytes) (parts : List Bytes) :
    separated [0x2c] (part :: parts) = part ++ afterCommas parts := by
  induction parts generalizing part with
  | nil => simp [separated, afterCommas]
  | cons other parts ih =>
    rw [separated, ih other, afterCommas, afterCommas, List.flatMap_cons]
    · simp
    · nofun

/-- Every part has a comma before it, so the bytes that remain are fuel enough for the parts. -/
theorem length_le_afterCommas (parts : List Bytes) : parts.length ≤ (afterCommas parts).length := by
  induction parts with
  | nil => exact Nat.le_refl _
  | cons part parts ih =>
    rw [afterCommas, List.flatMap_cons, ← afterCommas, List.length_append, List.length_cons,
      List.length_cons]
    omega

/-- There are fewer parts after the first than bytes in all. -/
theorem length_lt_of_separated {part : Bytes} {parts : List Bytes} {count : Nat}
    (present : 0 < part.length) (enough : (separated [0x2c] (part :: parts)).length ≤ count) :
    parts.length < count := by
  have hparts := length_le_afterCommas parts
  rw [separated_cons, List.length_append] at enough
  omega

/-- What follows a value inside brackets is a comma or the closing bracket. -/
theorem ends_afterCommas {parts : List Bytes} {rest : Bytes} (h : Ends rest) :
    Ends (afterCommas parts ++ rest) := by
  cases parts with
  | nil => exact h
  | cons part parts => exact .of_comma (startsWith_cons.mpr rfl)

/-- No document is written as nothing.  None begins with a blank or a closing bracket, and only `null`
begins with its first letter. -/
theorem startsWith_compact (json : Json) :
    ∃ first, Cursor.isGap first = false ∧ first ≠ 0x5d ∧ (first = 0x6e → json = .null) ∧
      StartsWith first json.compact := by
  cases json with
  | null => exact ⟨0x6e, rfl, by decide, fun _ ↦ rfl, rfl⟩
  | number value =>
    cases value with
    | ofNat magnitude =>
      obtain ⟨first, hdigit, hstarts⟩ := spell_repr_startsWith magnitude
      refine ⟨first, isGap_of_isDigit hdigit, ?_, ?_, hstarts⟩
      · rintro rfl
        cases hdigit
      · rintro rfl
        cases hdigit
    | negSucc below =>
      refine ⟨0x2d, rfl, by decide, fun h ↦ absurd h (by decide), ?_⟩
      change StartsWith 0x2d (spell ("-" ++ (below + 1).repr))
      rw [spell, Text.Utf8.encode_append]
      have hminus : StartsWith 0x2d (Text.Utf8.encode "-") := rfl
      exact hminus.append _
  | text value => exact ⟨0x22, rfl, by decide, fun h ↦ absurd h (by decide), rfl⟩
  | list elements => exact ⟨0x5b, rfl, by decide, fun h ↦ absurd h (by decide), rfl⟩
  | object members => exact ⟨0x7b, rfl, by decide, fun h ↦ absurd h (by decide), rfl⟩

namespace Reader

variable {α σ : Type}

/-- A reader accepts a document for a value. -/
def Accepts (reader : Reader α) (json : Json) (value : α) : Prop :=
  reader.Reads Ends json.compact value

namespace Accepts

theorem read_eq {reader : Reader α} {json : Json} {value : α} (h : reader.Accepts json value) :
    reader.read json.compact = .ok value :=
  Reads.read_eq h .nil

theorem map {β : Type} {reader : Reader α} {json : Json} {value : α} (h : reader.Accepts json value)
    (f : α → β) : Accepts (f <$> reader) json (f value) :=
  Reads.map h f

/-- What is made of a value once it is read takes nothing more. -/
theorem finish {β : Type} {reader : Reader α} {next : α → Reader β} {json : Json} {result : β}
    (value : α) (h : reader.Accepts json value) (hnext : (next value).Reads Ends [] result) :
    (reader >>= next).Accepts json result :=
  Reads.then h hnext

theorem text (content : String) : Reader.text.Accepts (.text content) content :=
  reads_text content

theorem path (content : String) : Reader.path.Accepts (.text content) content :=
  reads_textWith (.pure content)

/-- A number within the bounds of its type is accepted for what is made of it. -/
theorem bounded {expected : String} {greatest : Int} {value : Nat} (f : Int → α)
    (within : (value : Int) ≤ greatest) (wide : greatest ≤ maxWord) :
    Accepts (f <$> integer expected 0 greatest) (.number value) (f value) :=
  Reads.map (reads_integer (Int.natCast_nonneg _) within (Int.le_trans within wide) (by omega)) f

theorem word64 (value : UInt64) :
    Accepts (Nat.toUInt64 <$> Reader.word64) (.number value.toNat) value := by
  have hvalue : value.toNat < 2 ^ 64 := value.toNat_lt
  have h : Reader.word64.Accepts (.number value.toNat) (value.toNat : Int).toNat :=
    bounded Int.toNat (by omega) (by decide)
  simpa using h.map Nat.toUInt64

theorem word32 (value : UInt32) : Reader.word32.Accepts (.number value.toNat) value := by
  have hvalue : value.toNat < 2 ^ 32 := value.toNat_lt
  have h : Reader.word32.Accepts (.number value.toNat) (value.toNat : Int).toNat.toUInt32 :=
    bounded (fun value ↦ value.toNat.toUInt32) (by omega) (by decide)
  simpa using h

theorem integer32 {value : Int} (lower : -0x80000000 ≤ value) (upper : value ≤ 0x7fffffff) :
    Reader.integer32.Accepts (.number value) value :=
  reads_integer lower upper (by unfold maxWord; omega) (by omega)

theorem optional_null (reader : Reader α) : (optional reader).Accepts .null none := by
  apply Reads.peekToken_cons rfl
  apply Reads.skip_bind
  exact (Reads.expectBytes [0x75, 0x6c, 0x6c]).then (.pure none)

/-- What is written otherwise than `null` is read as it is. -/
theorem optional_some {reader : Reader α} {json : Json} {value : α} (h : reader.Accepts json value)
    (present : json ≠ .null) : (optional reader).Accepts json (some value) := by
  obtain ⟨first, hgap, _, hnull, hstarts⟩ := startsWith_compact json
  apply Reads.peekToken first hgap fun rest _ ↦ hstarts.append rest
  split
  · next heq =>
    cases heq
    exact absurd (hnull rfl) present
  · exact Reads.map h some

end Accepts

/-! ## Lists -/

theorem reads_moreElements_end (first : Bool) :
    (moreElements first).Reads (StartsWith 0x5d) [] false :=
  Reads.peekToken 0x5d rfl (fun _ h ↦ h) (.pure false)

theorem reads_moreElements_first {byte : UInt8} (token : Cursor.isGap byte = false)
    (inside : byte ≠ 0x5d) : (moreElements true).Reads (StartsWith byte) [] true := by
  apply Reads.peekToken byte token fun _ h ↦ h
  split
  · next heq => cases heq
  · next heq =>
    cases heq
    exact absurd rfl inside
  · exact .pure true

theorem reads_moreElements_comma {byte : UInt8} (token : Cursor.isGap byte = false)
    (inside : byte ≠ 0x5d) : (moreElements false).Reads (StartsWith byte) [0x2c] true := by
  apply Reads.peekToken_cons rfl
  apply Reads.skip_bind
  apply Reads.peekToken byte token fun _ h ↦ h
  split
  · next heq =>
    cases heq
    exact absurd rfl inside
  · exact .pure true
  · next heq => cases heq

theorem reads_closeList {follows : Bytes → Prop} : closeList.Reads follows [0x5d] () :=
  Reads.peekToken_cons rfl (.skip 0x5d)

/-- An element, with whatever lets it follow what came before. -/
theorem reads_elements_cons {element : Reader α} {json : Json} {value : α} {first : Bool}
    {opening : Bytes} {parts : List Bytes} {fuel : Nat} {done result : List α}
    (opens : ∀ byte, Cursor.isGap byte = false → byte ≠ 0x5d →
      (moreElements first).Reads (StartsWith byte) opening true)
    (accepts : element.Accepts json value)
    (more : (elements element fuel false (value :: done)).Reads (StartsWith 0x5d) (afterCommas parts)
      result) :
    (elements element (fuel + 1) first done).Reads (StartsWith 0x5d)
      (opening ++ (json.compact ++ afterCommas parts)) result := by
  obtain ⟨byte, hgap, hinside, _, hstarts⟩ := startsWith_compact json
  refine Reads.bind (opens byte hgap hinside) ?_ fun rest _ ↦ (hstarts.append _).append rest
  exact Reads.bind accepts more fun rest h ↦ ends_afterCommas (.of_bracket h)

/-- The elements after the first, with enough fuel for all of them. -/
theorem reads_elements_rest {element : Reader α} {jsons : List Json} {values : List α}
    (accepted : List.Forall₂ element.Accepts jsons values) {fuel : Nat} (enough : jsons.length < fuel)
    (done : List α) :
    (elements element fuel false done).Reads (StartsWith 0x5d) (afterCommas (jsons.map compact))
      (done.reverse ++ values) := by
  induction accepted generalizing fuel done with
  | nil =>
    cases fuel with
    | zero => cases enough
    | succ fuel =>
      rw [List.append_nil]
      exact Reads.bind (reads_moreElements_end false) (.pure done.reverse) fun _ h ↦ h
  | @cons json value jsons values haccepts _ ih =>
    cases fuel with
    | zero => cases enough
    | succ fuel =>
      have hmore := ih (Nat.lt_of_succ_lt_succ enough) (value :: done)
      rw [List.reverse_cons, List.append_assoc] at hmore
      exact reads_elements_cons (fun _ ↦ reads_moreElements_comma) haccepts hmore

/-- A list is accepted for the values that its elements are accepted for. -/
theorem Accepts.list {element : Reader α} {jsons : List Json} {values : List α}
    (accepted : List.Forall₂ element.Accepts jsons values) :
    (Reader.list element).Accepts (.list jsons) values := by
  unfold Accepts
  rw [compact, compactElements_eq]
  apply Reads.placed
  apply Reads.peekToken 0x5b rfl fun rest _ ↦ startsWith_cons.mpr rfl
  refine Reads.enclosed 0x5d ?_ reads_closeList
  apply Reads.skip_bind
  apply Reads.remaining
  intro count hcount
  cases accepted with
  | nil => exact Reads.bind (reads_moreElements_end true) (.pure []) fun _ h ↦ h
  | @cons json value jsons values haccepts hrest =>
    have hpositive : 0 < json.compact.length := by
      obtain ⟨_, _, _, _, hstarts⟩ := startsWith_compact json
      obtain ⟨_, hmore⟩ := List.head?_eq_some_iff.mp hstarts
      rw [hmore]
      exact Nat.succ_pos _
    have henough := length_lt_of_separated hpositive hcount
    rw [List.length_map] at henough
    rw [List.map_cons, separated_cons]
    exact reads_elements_cons (fun _ ↦ reads_moreElements_first) haccepts
      (reads_elements_rest hrest henough [value])

/-! ## Maps and records -/

theorem reads_moreMembers_end (first : Bool) :
    (moreMembers first).Reads (StartsWith 0x7d) [] false :=
  Reads.peekToken 0x7d rfl (fun _ h ↦ h) (.pure false)

theorem reads_moreMembers_first : (moreMembers true).Reads (StartsWith 0x22) [] true :=
  Reads.peekToken 0x22 rfl (fun _ h ↦ h) (.pure true)

theorem reads_moreMembers_comma : (moreMembers false).Reads (StartsWith 0x22) [0x2c] true := by
  apply Reads.peekToken_cons rfl
  apply Reads.skip_bind
  exact Reads.peekToken 0x22 rfl (fun _ h ↦ h) (.pure true)

theorem reads_closeObject {follows : Bytes → Prop} : closeObject.Reads follows [0x7d] () :=
  Reads.peekToken_cons rfl (.skip 0x7d)

theorem reads_colon {follows : Bytes → Prop} : colon.Reads follows [0x3a] () :=
  Reads.peekToken_cons rfl (.skip 0x3a)

/-- A colon and what is behind it. -/
theorem reads_colon_bind {follows : Bytes → Prop} {next : Unit → Reader α} {text : Bytes} {value : α}
    (h : (next ()).Reads follows text value) :
    (colon >>= next).Reads follows (0x3a :: text) value :=
  Reads.followed reads_colon h

/-- A member in front of more, with whatever lets it follow what came before. -/
theorem reads_member_cons {β : Type} {name : String} {json : Json} {reader : Reader α} {value : α}
    {next : α → Reader β} {known : String → Reader β} {stop : Reader β} {first : Bool}
    {opening : Bytes} {parts : List Bytes} {result : β}
    (opens : (moreMembers first).Reads (StartsWith 0x22) opening true)
    (found : known name = do colon; next (← reader)) (accepts : reader.Accepts json value)
    (more : (next value).Reads (StartsWith 0x7d) (afterCommas parts) result) :
    Reads (do if ← moreMembers first then known (← memberName) else stop) (StartsWith 0x7d)
      (opening ++ (compactMember (name, json) ++ afterCommas parts)) result := by
  have hquote : StartsWith 0x22 (compactMember (name, json)) := rfl
  refine Reads.bind opens ?_ fun rest _ ↦ (hquote.append _).append rest
  rw [if_pos rfl, compactMember, List.append_assoc]
  apply Reads.followed (reads_memberName name)
  rw [found]
  apply reads_colon_bind
  exact Reads.bind accepts more fun rest h ↦ ends_afterCommas (.of_brace h)

/-- An entry is accepted for its name and what its value is accepted for. -/
def AcceptsEntry (value : Reader α) (field : String × Json) (entry : String × α) : Prop :=
  field.1 = entry.1 ∧ value.Accepts field.2 entry.2

/-- The entries after the first, with enough fuel for all of them. -/
theorem reads_entries_rest {value : Reader α} {fields : List (String × Json)}
    {pairs : List (String × α)} (accepted : List.Forall₂ value.AcceptsEntry fields pairs) {fuel : Nat}
    (enough : fields.length < fuel) (done : List (String × α)) :
    (entries value fuel false done).Reads (StartsWith 0x7d) (afterCommas (fields.map compactMember))
      (done.reverse ++ pairs) := by
  induction accepted generalizing fuel done with
  | nil =>
    cases fuel with
    | zero => cases enough
    | succ fuel =>
      rw [List.append_nil]
      exact Reads.bind (reads_moreMembers_end false) (.pure done.reverse) fun _ h ↦ h
  | @cons field pair fields pairs haccepts _ ih =>
    obtain ⟨name, json⟩ := field
    obtain ⟨_, content⟩ := pair
    obtain ⟨rfl, hvalue⟩ := haccepts
    cases fuel with
    | zero => cases enough
    | succ fuel =>
      have hmore := ih (Nat.lt_of_succ_lt_succ enough) ((name, content) :: done)
      rw [List.reverse_cons, List.append_assoc] at hmore
      exact reads_member_cons reads_moreMembers_comma rfl hvalue hmore

/-- An object is accepted as a map for the entries that its members are accepted for. -/
theorem Accepts.entries {value : Reader α} {fields : List (String × Json)} {pairs : List (String × α)}
    (accepted : List.Forall₂ value.AcceptsEntry fields pairs) :
    (Reader.map value).Accepts (.object fields) pairs := by
  unfold Accepts
  rw [compact, compactMembers_eq]
  apply Reads.placed
  apply Reads.peekToken 0x7b rfl fun rest _ ↦ startsWith_cons.mpr rfl
  refine Reads.enclosed 0x7d ?_ reads_closeObject
  apply Reads.skip_bind
  apply Reads.remaining
  intro count hcount
  cases accepted with
  | nil => exact Reads.bind (reads_moreMembers_end true) (.pure []) fun _ h ↦ h
  | @cons field pair fields pairs haccepts hrest =>
    obtain ⟨name, json⟩ := field
    obtain ⟨_, content⟩ := pair
    obtain ⟨rfl, hvalue⟩ := haccepts
    have henough := length_lt_of_separated (length_compactMember_pos _) hcount
    rw [List.length_map] at henough
    rw [List.map_cons, separated_cons]
    exact reads_member_cons reads_moreMembers_first rfl hvalue
      (reads_entries_rest hrest henough [(name, content)])

/-- Written members fill a record one after another, each an own member that was not there before. -/
inductive Fills (members : List (Member σ)) : σ → List (String × Json) → σ → Prop
  | nil (record : σ) : Fills members record [] record
  | cons {record next last : σ} {name : String} {json : Json} {fields : List (String × Json)}
      {member : Member σ} (known : members.find? (·.name == name) = some member)
      (unset : member.isSet record = false) (accepts : (member.read record).Accepts json next)
      (more : Fills members next fields last) : Fills members record ((name, json) :: fields) last

/-- A record is filled by some members and then by others. -/
theorem Fills.append {members : List (Member σ)} {record last : σ}
    {fields more : List (String × Json)} (next : σ) (fills : Fills members record fields next)
    (fillsMore : Fills members next more last) : Fills members record (fields ++ more) last := by
  induction fills with
  | nil => exact fillsMore
  | cons known unset accepts _ ih => exact .cons known unset accepts (ih fillsMore)

/-- The members after the first, with enough fuel for all of them. -/
theorem Fills.reads_rest {members : List (Member σ)} {record last : σ}
    {fields : List (String × Json)} (fills : Fills members record fields last) {fuel : Nat}
    (enough : fields.length < fuel) :
    (objectMembers members fuel false record).Reads (StartsWith 0x7d)
      (afterCommas (fields.map compactMember)) last := by
  induction fills generalizing fuel with
  | nil record =>
    cases fuel with
    | zero => cases enough
    | succ fuel => exact Reads.bind (reads_moreMembers_end false) (.pure record) fun _ h ↦ h
  | @cons record next last name json fields member known unset accepts _ ih =>
    cases fuel with
    | zero => cases enough
    | succ fuel =>
      have hmore := ih (Nat.lt_of_succ_lt_succ enough)
      exact reads_member_cons reads_moreMembers_comma (by simp [known, unset]) accepts hmore

/-- All members of an object, between its brackets. -/
theorem Fills.reads {members : List (Member σ)} {record last : σ} {fields : List (String × Json)}
    (fills : Fills members record fields last) {fuel : Nat}
    (enough : (separated [0x2c] (fields.map compactMember)).length < fuel) :
    (objectMembers members fuel true record).Reads (StartsWith 0x7d)
      (separated [0x2c] (fields.map compactMember)) last := by
  cases fuel with
  | zero => cases enough
  | succ fuel =>
    cases fills with
    | nil => exact Reads.bind (reads_moreMembers_end true) (.pure record) fun _ h ↦ h
    | @cons _ next _ name json fields member known unset accepts more =>
      have henough := length_lt_of_separated (length_compactMember_pos _) (Nat.le_of_lt_succ enough)
      rw [List.length_map] at henough
      rw [List.map_cons, separated_cons]
      exact reads_member_cons reads_moreMembers_first (by simp [known, unset]) accepts
        (more.reads_rest henough)

/-- A record that has all its members is left as it is. -/
theorem settleMembers_of_isSet {members : List (Member σ)} {record : σ}
    (set : ∀ member ∈ members, member.isSet record = true) :
    settleMembers members record = pure record := by
  induction members with
  | nil => rfl
  | cons member members ih =>
    rw [settleMembers, if_pos (set member List.mem_cons_self)]
    exact ih fun other hother ↦ set other (List.mem_cons_of_mem _ hother)

theorem settleMembers_required {members : List (Member σ)} {record : σ} {name : String}
    {get : σ → Option α} {set : α → σ → σ} {reader : Reader α} (present : (get record).isSome = true) :
    settleMembers (.required name get set reader :: members) record = settleMembers members record :=
  if_pos present

/-- A member that may be left out stays as it is, or gets its default. -/
theorem settleMembers_orElse {members : List (Member σ)} {record : σ} {name : String}
    {get : σ → Option α} {set : α → σ → σ} {default : α} {reader : Reader α} (next : σ)
    (settled : (if (get record).isSome then record else set default record) = next) :
    settleMembers (.orElse name get set default reader :: members) record =
      settleMembers members next := by
  rw [← settled, settleMembers]
  cases hget : (get record).isSome with
  | true => simp [Member.orElse, hget]
  | false => simp [Member.orElse, hget]

/-- An object is accepted for the record that its members fill, once those left out are settled. -/
theorem Accepts.record_settled {expected : String} {members : List (Member σ)} {blank last : σ}
    {fields : List (String × Json)} (filled : σ) (fills : Fills members blank fields filled)
    (settles : settleMembers members filled = pure last) :
    (Reader.record expected members blank).Accepts (.object fields) last := by
  unfold Accepts
  rw [compact, compactMembers_eq]
  apply Reads.placed
  apply Reads.peekToken 0x7b rfl fun rest _ ↦ startsWith_cons.mpr rfl
  refine Reads.enclosed 0x7d ?_ reads_closeObject
  apply Reads.skip_bind
  apply Reads.remaining
  intro count hcount
  have hreads : (objectMembers members (count + 1) true blank).Reads (StartsWith 0x7d)
      (separated [0x2c] (fields.map compactMember)) filled :=
    fills.reads (Nat.lt_succ_of_le hcount)
  rw [← List.append_nil (separated _ _)]
  refine Reads.bind hreads ?_ fun _ h ↦ h
  rw [settles]
  exact .pure last

/-- An object is accepted for the record that its members fill, where they leave none unset. -/
theorem Accepts.record {expected : String} {members : List (Member σ)} {blank last : σ}
    {fields : List (String × Json)} (fills : Fills members blank fields last)
    (set : ∀ member ∈ members, member.isSet last = true) :
    (Reader.record expected members blank).Accepts (.object fields) last :=
  .record_settled last fills (settleMembers_of_isSet set)

/-! ## Variants -/

theorem reads_variantName {follows : Bytes → Prop} {known : List (String × Variant α)} {name key : String}
    {chosen : Variant α} (found : known.find? (·.1 == name) = some (key, chosen)) :
    (variantName known).Reads follows (writeString name) chosen := by
  apply reads_textWith
  simp only [found]
  exact .pure chosen

/-- A variant without a record is accepted as its name. -/
theorem Accepts.variant_plain {known : List (String × Variant α)} {name key : String} {value : α}
    (found : known.find? (·.1 == name) = some (key, .plain value)) :
    (variant known).Accepts (.text name) value := by
  apply Reads.peekToken_cons rfl
  exact Reads.then (reads_variantName found) (.pure value)

/-- A variant with a record is accepted as an object that holds the record under its name. -/
theorem Accepts.variant_record {known : List (String × Variant α)} {name key : String} {json : Json}
    {reader : Reader α} {value : α}
    (found : known.find? (·.1 == name) = some (key, .record reader)) (h : reader.Accepts json value) :
    (variant known).Accepts (.object [(name, json)]) value := by
  have hcompact : compact (.object [(name, json)]) =
      0x7b :: (writeString name ++ (0x3a :: (compact json ++ [0x7d]))) := by
    rw [compact, compactMembers_eq]
    simp [separated, compactMember]
  unfold Accepts
  rw [hcompact]
  apply Reads.peekToken_cons rfl
  apply Reads.skip_bind
  apply Reads.peekToken 0x22 rfl fun rest _ ↦ ((startsWith_writeString name).append _).append rest
  apply Reads.followed (reads_variantName found)
  apply reads_colon_bind
  refine Reads.bind h ?_ fun rest _ ↦ .of_brace (startsWith_cons.mpr rfl)
  apply Reads.peekToken_cons rfl
  exact Reads.skip_bind (.pure value)

end Reader

end Supervision.Json
