import Mathlib.Data.List.Basic
import Supervision.Files.Tree

/-!
# What becomes of a file tree

Directories are made only where nothing was, and removing a path never takes a directory away.  So a
path that leads to some place goes on leading there, whatever else is made or removed.
-/

namespace Supervision.Files.Tree

variable {tree before middle after : Tree} {path : String}

/-! ## Nodes -/

theorem find?_filter_ne (nodes : List (List String × Node)) (name other : List String) :
    (nodes.filter fun entry ↦ entry.1 != name).find? (fun entry ↦ entry.1 == other) =
      if other = name then none else nodes.find? fun entry ↦ entry.1 == other := by
  rw [List.find?_filter]
  split
  · rename_i h
    subst h
    refine List.find?_eq_none.mpr fun entry _ ↦ ?_
    simp
  · rename_i h
    congr
    funext entry
    by_cases hentry : entry.1 = other
    · simp [hentry, h]
    · simp [hentry]

theorem node?_of_ne_nil {name : List String} (proper : name ≠ []) (tree : Tree) :
    tree.node? name = (tree.nodes.find? fun entry ↦ entry.1 == name).map (·.2) :=
  if_neg (by simpa using proper)

theorem node?_drop {name : List String} (proper : name ≠ []) (tree : Tree) (other : List String) :
    (tree.drop name).node? other = if other = name then none else tree.node? other := by
  by_cases hroot : other = []
  · subst hroot
    rw [if_neg proper.symm]
    rfl
  · rw [node?_of_ne_nil hroot, node?_of_ne_nil hroot, drop, find?_filter_ne]
    split <;> rfl

theorem node?_put {name : List String} (proper : name ≠ []) (tree : Tree) (node : Node)
    (other : List String) :
    (tree.put name node).node? other = if other = name then some node else tree.node? other := by
  by_cases hroot : other = []
  · subst hroot
    rw [if_neg proper.symm]
    rfl
  · rw [node?_of_ne_nil hroot, node?_of_ne_nil hroot, put, List.find?_cons, find?_filter_ne]
    by_cases h : other = name
    · simp [h]
    · rw [beq_false_of_ne (Ne.symm h), if_neg h, if_neg h]

/-! ## Paths -/

theorem walk_cons {reached : List String} (directory : tree.node? reached = some .directory)
    (part : String) (rest : List String) :
    tree.walk reached (part :: rest) =
      if part == "." then tree.walk reached rest
      else if part == ".." then tree.walk reached.dropLast rest
      else if 255 < part.utf8ByteSize then .error .nameTooLong
      else tree.walk (reached ++ [part]) rest := by
  rw [walk, directory]

theorem directory_of_walk_cons {reached name rest : List String} {part : String}
    (h : tree.walk reached (part :: rest) = .ok name) : tree.node? reached = some .directory := by
  rw [walk] at h
  split at h
  · cases h
  · assumption
  · cases h

/-- A path can be walked in two parts, from whatever place the first one leads to. -/
theorem walk_append_iff {reached name parts more : List String} :
    tree.walk reached (parts ++ more) = .ok name ↔
      ∃ between, tree.walk reached parts = .ok between ∧ tree.walk between more = .ok name := by
  induction parts generalizing reached with
  | nil => simp [walk]
  | cons part parts ih =>
    by_cases hdirectory : tree.node? reached = some .directory
    · rw [List.cons_append, walk_cons hdirectory, walk_cons hdirectory]
      split_ifs
      · exact ih
      · exact ih
      · simp
      · exact ih
    · constructor
      · exact fun h ↦ absurd (directory_of_walk_cons h) hdirectory
      · rintro ⟨_, h, _⟩
        exact absurd (directory_of_walk_cons h) hdirectory

theorem segments_of_splitEnd {part : String} {slash : Bool}
    (h : (splitEnd path).2 = .name part slash) :
    segments path = (splitEnd path).1 ++ [part] ∧ part ≠ "." ∧ part ≠ ".." ∧
      slash = endsInSlash path := by
  unfold splitEnd at h ⊢
  split at h
  · cases h
  · rename_i last hlast
    split at h
    · cases h
    · rename_i hplace
      obtain ⟨rfl, rfl⟩ := Ending.name.inj h
      rw [if_neg hplace]
      simp only [Bool.or_eq_true, beq_iff_eq, not_or] at hplace
      exact ⟨(List.dropLast_append_getLast? _ hlast).symm, hplace.1, hplace.2, rfl⟩

theorem find_eq {name : List String} (h : tree.resolve path = .ok name) :
    tree.find path = (tree.node? name).elim (.error .noSuchFile) .ok := by
  rw [find, h]
  cases hnode : tree.node? name <;> simp [bind, Except.bind, hnode]

/-- A path leads to a name in a directory, and nothing has that name. -/
structure Vacant (tree : Tree) (path : String) (forDirectory : Bool) (reached : List String)
    (part : String) : Prop where
  short : ¬path.isEmpty ∧ ¬4096 ≤ path.utf8ByteSize ∧ ¬255 < part.utf8ByteSize
  segments : segments path = (splitEnd path).1 ++ [part]
  proper : part ≠ "." ∧ part ≠ ".."
  above : tree.walk (tree.origin path) (splitEnd path).1 = .ok reached
  directory : tree.node? reached = some .directory
  vacant : tree.node? (reached ++ [part]) = none
  ending : endsInSlash path = true → forDirectory = true

/-- What is vacant is a name that a directory does not have yet. -/
theorem exists_vacant {forDirectory : Bool} {name : List String}
    (h : tree.vacant path forDirectory = .ok name) :
    ∃ reached part, name = reached ++ [part] ∧ tree.Vacant path forDirectory reached part := by
  unfold vacant at h
  split at h
  · cases h
  split at h
  · cases h
  split at h
  · cases h
  rename_i reached hreached
  split at h
  · cases h
  rename_i part slash hending
  split_ifs at h with hlong hpresent hslash
  obtain ⟨hsegments, hdot, hdots, rfl⟩ := segments_of_splitEnd hending
  obtain ⟨between, habove, hlast⟩ := walk_append_iff.mp hreached
  have hdirectory := directory_of_walk_cons hlast
  rw [walk_cons hdirectory, if_pos (beq_self_eq_true _)] at hlast
  obtain rfl : between = reached := Except.ok.inj hlast
  exact ⟨between, part, (Except.ok.inj h).symm, ⟨‹_›, ‹_›, hlong⟩, hsegments, ⟨hdot, hdots⟩, habove,
    hdirectory, Option.not_isSome_iff_eq_none.mp hpresent, by simpa using hslash⟩

/-- A path that something may be named by leads to the place where that will be. -/
theorem resolve_of_vacant {name : List String} (h : tree.vacant path false = .ok name) :
    tree.resolve path = .ok name := by
  obtain ⟨reached, part, rfl, hvacant⟩ := exists_vacant h
  obtain ⟨hempty, hlong, hpart⟩ := hvacant.short
  have hparts : parts path = (splitEnd path).1 ++ [part] := by
    rw [parts, if_neg fun hslash ↦ absurd (hvacant.ending hslash) nofun, hvacant.segments]
  rw [resolve, if_neg hempty, if_neg hlong, hparts, walk_append_iff]
  refine ⟨reached, hvacant.above, ?_⟩
  rw [walk_cons hvacant.directory]
  simp [hvacant.proper, hpart, walk]

theorem node?_of_vacant {forDirectory : Bool} {name : List String}
    (h : tree.vacant path forDirectory = .ok name) : name ≠ [] ∧ tree.node? name = none := by
  obtain ⟨reached, part, rfl, hvacant⟩ := exists_vacant h
  exact ⟨by simp, hvacant.vacant⟩

/-! ## Directories that stay -/

/-- Every directory is still there, and paths start where they did. -/
structure KeepsDirectories (before after : Tree) : Prop where
  working : after.working = before.working
  directories : ∀ name, before.node? name = some .directory → after.node? name = some .directory

namespace KeepsDirectories

theorem refl (tree : Tree) : KeepsDirectories tree tree := ⟨rfl, fun _ h ↦ h⟩

theorem trans (first : KeepsDirectories before middle) (second : KeepsDirectories middle after) :
    KeepsDirectories before after :=
  ⟨second.working.trans first.working, fun name h ↦ second.directories name (first.directories name h)⟩

/-- A path that could be walked can be walked as long as no directory goes. -/
theorem walk_eq (kept : KeepsDirectories before after) {reached name parts : List String}
    (h : before.walk reached parts = .ok name) : after.walk reached parts = .ok name := by
  induction parts generalizing reached with
  | nil => exact h
  | cons part parts ih =>
    have hdirectory := directory_of_walk_cons h
    rw [walk_cons hdirectory] at h
    rw [walk_cons (kept.directories reached hdirectory)]
    split_ifs at h ⊢ <;> exact ih h

/-- A path goes on leading where it leads. -/
theorem resolve_eq (kept : KeepsDirectories before after) {name : List String}
    (h : before.resolve path = .ok name) : after.resolve path = .ok name := by
  unfold resolve origin at h ⊢
  split at h
  · cases h
  · split at h
    · cases h
    · rw [if_neg ‹_›, if_neg ‹_›, kept.working]
      exact kept.walk_eq h

end KeepsDirectories

/-! ## Directories that are made -/

/-- Directories were made where nothing was. -/
structure Grown (before after : Tree) : Prop where
  working : after.working = before.working
  outside : after.outside = before.outside
  nodes : ∀ name, after.node? name = before.node? name ∨
    before.node? name = none ∧ after.node? name = some .directory

namespace Grown

theorem refl (tree : Tree) : Grown tree tree := ⟨rfl, rfl, fun _ ↦ .inl rfl⟩

theorem trans (first : Grown before middle) (second : Grown middle after) : Grown before after := by
  refine ⟨second.working.trans first.working, second.outside.trans first.outside, fun name ↦ ?_⟩
  rcases second.nodes name with hsame | ⟨hnone, hdirectory⟩
  · rw [hsame]
    exact first.nodes name
  · rcases first.nodes name with hbefore | ⟨-, hmiddle⟩
    · exact .inr ⟨hbefore.symm.trans hnone, hdirectory⟩
    · exact absurd (hnone.symm.trans hmiddle) nofun

theorem keepsDirectories (grown : Grown before after) : KeepsDirectories before after := by
  refine ⟨grown.working, fun name h ↦ ?_⟩
  rcases grown.nodes name with hsame | ⟨hnone, -⟩
  · exact hsame.trans h
  · exact absurd (hnone.symm.trans h) nofun

end Grown

theorem grown_makeDirectory (h : tree.makeDirectory path = .ok after) : Grown tree after := by
  rw [makeDirectory] at h
  cases hvacant : tree.vacant path true with
  | error errno =>
    rw [hvacant] at h
    cases h
  | ok name =>
    rw [hvacant] at h
    cases h
    obtain ⟨proper, hnone⟩ := node?_of_vacant hvacant
    refine ⟨rfl, rfl, fun other ↦ ?_⟩
    rw [node?_put proper]
    split
    · rename_i hother
      exact .inr ⟨hother ▸ hnone, rfl⟩
    · exact .inl rfl

theorem grown_makeDirectoriesWithin {steps : Nat}
    (h : tree.makeDirectoriesWithin path steps = .ok after) : Grown tree after := by
  induction steps generalizing tree path after with
  | zero => cases h
  | succ steps ih =>
    rw [makeDirectoriesWithin] at h
    split at h
    · cases h
      exact .refl tree
    split at h
    · rename_i made hmade
      cases h
      exact grown_makeDirectory hmade
    split at h
    · split at h
      · cases h
      split at h
      · cases h
      rename_i above _ between habove
      have hbetween := ih habove
      split at h
      · cases h
        exact hbetween.trans (grown_makeDirectory ‹_›)
      · split at h
        · cases h
          exact hbetween
        · cases h
    · split at h
      · cases h
        exact .refl tree
      · cases h

/-- Making directories puts them where nothing was, and touches nothing else. -/
theorem grown_makeDirectories (h : tree.makeDirectories path = .ok after) : Grown tree after := by
  unfold makeDirectories at h
  split at h
  · cases h
  split at h
  · cases h
    exact grown_makeDirectoriesWithin ‹_›
  · cases h

/-! ## Removed paths -/

/-- What was at the end of a path has been removed if it was there and no directory. -/
structure Removed (path : String) (before after : Tree) : Prop where
  working : after.working = before.working
  outside : after.outside = before.outside
  nodes : ∀ name, after.node? name = before.node? name ∨
    before.resolve path = .ok name ∧ (∃ node, before.node? name = some node ∧ node ≠ .directory) ∧
      after.node? name = none
  gone : hasNul path = false → ∀ name, before.resolve path = .ok name →
    ∀ node, after.node? name = some node → node = .directory

namespace Removed

theorem refl_of_error {errno : Errno} (h : tree.remove path = .error errno) :
    Removed path tree tree := by
  refine ⟨rfl, rfl, fun _ ↦ .inl rfl, fun hnul name hname node hnode ↦ ?_⟩
  unfold remove at h
  rw [if_neg (by simpa using hnul), hname] at h
  simp only [hnode] at h
  cases node <;> first | rfl | cases h

/-- Only what is at the end of the path is removed. -/
theorem of_remove (h : tree.remove path = .ok after) : Removed path tree after := by
  unfold remove at h
  split at h
  · cases h
  split at h
  · cases h
  rename_i name hname
  split at h
  · cases h
  · cases h
  rename_i node hdirectory hnode
  have proper : name ≠ [] := by
    rintro rfl
    exact hdirectory (Option.some.inj hnode).symm
  obtain rfl := Except.ok.inj h
  refine ⟨rfl, rfl, fun other ↦ ?_, fun _ other hother node hnode ↦ ?_⟩
  · rw [node?_drop proper]
    split
    · rename_i hother
      subst hother
      exact .inr ⟨hname, ⟨node, hnode, hdirectory⟩, rfl⟩
    · exact .inl rfl
  · obtain rfl := Except.ok.inj (hname.symm.trans hother)
    rw [node?_drop proper, if_pos rfl] at hnode
    cases hnode

/-- Discarding a path removes what is at its end, or leaves everything as it is. -/
theorem discard (tree : Tree) (path : String) : Removed path tree (tree.discard path) := by
  unfold Tree.discard
  split
  · exact of_remove ‹_›
  · exact refl_of_error ‹_›

theorem keepsDirectories (removed : Removed path before after) : KeepsDirectories before after := by
  refine ⟨removed.working, fun name h ↦ ?_⟩
  rcases removed.nodes name with hsame | ⟨-, ⟨node, hnode, hdirectory⟩, -⟩
  · exact hsame.trans h
  · exact absurd (Option.some.inj (hnode.symm.trans h)) hdirectory

end Removed

end Supervision.Files.Tree
