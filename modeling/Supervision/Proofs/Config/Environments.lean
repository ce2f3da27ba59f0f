import Supervision.Environment
import Mathlib.Data.List.Induction
import Mathlib.Data.String.Basic

/-!
# Environments as maps

An environment that was put together by insertions has its names in order, one entry for each.  Two
such environments with the same entries are equal, so that it does not matter in which order the
entries were inserted.
-/

namespace Supervision.Environment

/-- The names are in order, and none stands twice. -/
def Sorted (env : Environment) : Prop := env.entries.Pairwise fun entry later ↦ entry.1 < later.1

theorem sorted_empty : empty.Sorted := .nil

/-- A new name is one more entry. -/
theorem insertEntry_perm {name : String} (value : String) {entries : List (String × String)}
    (fresh : ∀ entry ∈ entries, entry.1 ≠ name) :
    (insertEntry name value entries).Perm ((name, value) :: entries) := by
  induction entries with
  | nil => exact .refl _
  | cons entry rest ih =>
    obtain ⟨hentry, hrest⟩ := List.forall_mem_cons.mp fresh
    rw [insertEntry, if_neg hentry.symm]
    split
    · exact .refl _
    · exact ((ih hrest).cons entry).trans (.swap _ _ _)

/-- Every entry of a list with one more name is the new one or an old one. -/
theorem mem_insertEntry {name value : String} {entries : List (String × String)}
    {entry : String × String} (h : entry ∈ insertEntry name value entries) :
    entry = (name, value) ∨ entry ∈ entries := by
  induction entries with
  | nil => exact .inl (List.mem_singleton.mp h)
  | cons first rest ih =>
    rw [insertEntry] at h
    split at h
    · exact (List.mem_cons.mp h).imp_right (List.mem_cons_of_mem first)
    split at h
    · exact List.mem_cons.mp h
    · rcases List.mem_cons.mp h with rfl | hrest
      · exact .inr List.mem_cons_self
      · exact (ih hrest).imp_right (List.mem_cons_of_mem first)

/-- Inserting keeps the names in order. -/
theorem pairwise_insertEntry {name value : String} {entries : List (String × String)}
    (sorted : entries.Pairwise fun entry later ↦ entry.1 < later.1) :
    (insertEntry name value entries).Pairwise fun entry later ↦ entry.1 < later.1 := by
  induction entries with
  | nil => exact List.pairwise_singleton _ _
  | cons first rest ih =>
    obtain ⟨hfirst, hrest⟩ := List.pairwise_cons.mp sorted
    rw [insertEntry]
    split
    · next heq => exact List.pairwise_cons.mpr ⟨fun entry hentry ↦ heq ▸ hfirst entry hentry, hrest⟩
    split
    · next hlt =>
      refine List.pairwise_cons.mpr ⟨List.forall_mem_cons.mpr ⟨hlt, fun entry hentry ↦ ?_⟩, sorted⟩
      exact String.lt_trans hlt (hfirst entry hentry)
    · next hne hnlt =>
      refine List.pairwise_cons.mpr ⟨fun entry hentry ↦ ?_, ih hrest⟩
      rcases mem_insertEntry hentry with rfl | hold
      · exact (lt_trichotomy first.1 name).resolve_right fun h ↦ h.elim (hne ·.symm) hnlt
      · exact hfirst entry hold

theorem Sorted.insert {env : Environment} (sorted : env.Sorted) (name value : String) :
    (env.insert name value).Sorted :=
  pairwise_insertEntry sorted

theorem Sorted.extend {env : Environment} (sorted : env.Sorted) (pairs : List (String × String)) :
    (env.extend pairs).Sorted := by
  induction pairs generalizing env with
  | nil => exact sorted
  | cons pair pairs ih => exact ih (sorted.insert pair.1 pair.2)

theorem sorted_ofList (pairs : List (String × String)) : (ofList pairs).Sorted :=
  sorted_empty.extend pairs

theorem Sorted.nodup {env : Environment} (sorted : env.Sorted) :
    (env.entries.map Prod.fst).Nodup := by
  rw [List.Nodup, List.pairwise_map]
  exact sorted.imp fun {entry later} hlt ↦ ne_of_lt hlt

theorem Sorted.mapValues {env : Environment} (sorted : env.Sorted) (change : String → String) :
    (env.mapValues change).Sorted :=
  List.pairwise_map.mpr sorted

/-- New names are added to those that are there, in whatever place. -/
theorem extend_perm {env : Environment} {pairs : List (String × String)}
    (distinct : ((env.entries ++ pairs).map Prod.fst).Nodup) :
    (env.extend pairs).entries.Perm (env.entries ++ pairs) := by
  induction pairs generalizing env with
  | nil =>
    rw [List.append_nil]
    exact .refl _
  | cons pair pairs ih =>
    have hfresh : ∀ entry ∈ env.entries, entry.1 ≠ pair.1 := by
      rw [List.map_append, List.map_cons, List.nodup_append] at distinct
      intro entry hentry
      exact distinct.2.2 _ (List.mem_map_of_mem hentry) _ List.mem_cons_self
    have hinsert : (env.insert pair.1 pair.2).entries.Perm (pair :: env.entries) :=
      insertEntry_perm pair.2 hfresh
    have hall : ((env.insert pair.1 pair.2).entries ++ pairs).Perm (env.entries ++ pair :: pairs) :=
      (hinsert.append_right pairs).trans List.perm_middle.symm
    have hdistinct := (hall.map Prod.fst).nodup_iff.mpr distinct
    exact (ih hdistinct).trans hall

/-- Entries can be put in order in one way only. -/
theorem Sorted.eq_of_perm {env other : Environment} (sorted : env.Sorted)
    (otherSorted : other.Sorted) (listed : env.entries.Perm other.entries) : env = other := by
  have heq := List.Perm.eq_of_pairwise
    (fun _ _ _ _ hlt hgt ↦ absurd hgt (String.lt_asymm hlt)) sorted otherSorted listed
  cases env
  cases other
  exact congrArg Environment.mk heq

/-- Inserted in whatever order, the entries of an environment give that environment. -/
theorem Sorted.ofList_eq {env : Environment} (sorted : env.Sorted) {pairs : List (String × String)}
    (listed : pairs.Perm env.entries) : ofList pairs = env := by
  have hdistinct : (([] ++ pairs).map Prod.fst).Nodup :=
    (listed.map Prod.fst).nodup_iff.mpr sorted.nodup
  exact (sorted_ofList pairs).eq_of_perm sorted ((extend_perm hdistinct).trans listed)

/-! ## Values -/

/-- What was there before counts only for the names that are not set. -/
theorem find?_extend (env : Environment) (pairs : List (String × String)) (name : String) :
    (env.extend pairs).find? name = ((ofList pairs).find? name).or (env.find? name) := by
  induction pairs using List.reverseRecOn with
  | nil => rfl
  | append_singleton pairs pair ih =>
    have hextend (env : Environment) :
        env.extend (pairs ++ [pair]) = (env.extend pairs).insert pair.1 pair.2 := by
      simp [extend]
    rw [ofList, hextend, hextend, find?_insert, find?_insert]
    split
    · rfl
    · exact ih

theorem find?_extend_of_not_mem {env : Environment} {pairs : List (String × String)}
    {name : String} (h : ∀ pair ∈ pairs, pair.1 ≠ name) :
    (env.extend pairs).find? name = env.find? name := by
  induction pairs generalizing env with
  | nil => rfl
  | cons pair pairs ih =>
    obtain ⟨hpair, hpairs⟩ := List.forall_mem_cons.mp h
    have hrest : (env.extend (pair :: pairs)).find? name =
        (env.insert pair.1 pair.2).find? name := ih hpairs
    rw [hrest, find?_insert, if_neg hpair]

/-- The last of several values for a name stays. -/
theorem find?_extend_last {env : Environment} {earlier later : List (String × String)}
    {name value : String} (h : ∀ pair ∈ later, pair.1 ≠ name) :
    (env.extend (earlier ++ (name, value) :: later)).find? name = some value := by
  rw [extend, List.foldl_append, List.foldl_cons]
  change (((env.extend earlier).insert name value).extend later).find? name = some value
  rw [find?_extend_of_not_mem h, find?_insert, if_pos rfl]

/-- The entries are just the values that can be found. -/
theorem Sorted.mem_entries_iff {env : Environment} (sorted : env.Sorted) {name value : String} :
    (name, value) ∈ env.entries ↔ env.find? name = some value := by
  obtain ⟨entries⟩ := env
  induction entries with
  | nil => simp [find?]
  | cons entry entries ih =>
    obtain ⟨hentry, hentries⟩ := List.pairwise_cons.mp sorted
    have hrest := ih hentries
    simp only [find?] at hrest ⊢
    by_cases h : entry.1 = name
    · have hnot : (name, value) ∉ entries := fun hmem ↦ ne_of_lt (hentry _ hmem) h
      obtain ⟨first, content⟩ := entry
      subst h
      simp [hnot, eq_comm]
    · have hne : (name, value) ≠ entry := fun heq ↦ h (congrArg Prod.fst heq).symm
      simp [hne, h, hrest]

/-- Two environments with the same values are equal. -/
theorem Sorted.eq_of_find? {env other : Environment} (sorted : env.Sorted)
    (otherSorted : other.Sorted) (h : ∀ name, env.find? name = other.find? name) :
    env = other := by
  have hnodup {env : Environment} (sorted : env.Sorted) : env.entries.Nodup :=
    sorted.imp fun hlt heq ↦ ne_of_lt hlt (congrArg Prod.fst heq)
  apply sorted.eq_of_perm otherSorted
  refine (List.perm_ext_iff_of_nodup (hnodup sorted) (hnodup otherSorted)).mpr fun entry ↦ ?_
  rw [sorted.mem_entries_iff, otherSorted.mem_entries_iff, h]

/-- Values that are put together as a map first come to the same. -/
theorem Sorted.extend_ofList {env : Environment} (sorted : env.Sorted)
    (pairs : List (String × String)) : env.extend (ofList pairs).entries = env.extend pairs := by
  refine (sorted.extend _).eq_of_find? (sorted.extend _) fun name ↦ ?_
  rw [find?_extend, find?_extend env pairs, (sorted_ofList pairs).ofList_eq (.refl _)]

end Supervision.Environment
