import Supervision.Admin.Socket
import Supervision.Proofs.Files.Tree

/-!
# Binding and dropping one server

To bind a path is to make the directories it needs, to remove what is where it leads and to put a
socket there; to drop a server is to remove what is where its path leads.  Either way nothing changes
anywhere else, except that there are more directories.  Some paths name nothing in the file tree:
they take a name outside it, or none.
-/

namespace Supervision.Admin

open Files (Tree)

/-- A path in the file tree leads to this place. -/
def LeadsTo (files : Tree) (path : String) (name : List String) : Prop :=
  Address.ofPath path = .ok (.path path) ∧ files.resolve path = .ok name

namespace LeadsTo

variable {before after files : Tree} {path : String} {name other : List String}

/-- A path leads to one place only. -/
theorem unique (h : LeadsTo files path name) (hother : LeadsTo files path other) : name = other :=
  Except.ok.inj (h.2.symm.trans hother.2)

/-- A path leads to the same place as long as no directory goes. -/
theorem later (h : LeadsTo before path name) (kept : before.KeepsDirectories after) :
    LeadsTo after path name :=
  ⟨h.1, kept.resolve_eq h.2⟩

end LeadsTo

/-! ## Addresses -/

theorem Address.eq_of_ofPath {path text : String} (h : Address.ofPath path = .ok (.path text)) :
    text = path ∧ Tree.hasNul path = false := by
  unfold Address.ofPath at h
  split at h
  · cases h
  split_ifs at h with hfirst hlong hrest hnul hshort <;> cases h
  exact ⟨rfl, by simpa using hnul⟩

/-- Nothing is removed at a path that names nothing in the file tree. -/
theorem discard_of_ofPath {path : String} {address : Address} (h : Address.ofPath path = .ok address)
    (elsewhere : ∀ text, address ≠ .path text) (files : Tree) : files.discard path = files := by
  have hremove : ∃ errno, files.remove path = .error errno := by
    unfold Address.ofPath at h
    split at h
    · rename_i hempty
      obtain rfl : path = "" := String.toList_eq_nil_iff.mp hempty
      exact ⟨.noSuchFile, rfl⟩
    · rename_i first rest hpath
      split at h
      · rename_i hfirst
        have hnul : Tree.hasNul path = true := by simp [Tree.hasNul, hpath, hfirst]
        exact ⟨.invalidArgument, if_pos hnul⟩
      · split_ifs at h
        cases h
        exact absurd rfl (elsewhere path)
  obtain ⟨errno, hremove⟩ := hremove
  rw [Tree.discard, hremove]

/-! ## What binding does -/

/-- A server was bound to a path: the directories that the path needs were made, and the socket put
where it leads, or its name outside the file tree taken. -/
structure Bound (before : Tree) (path : String) (server : Nat) (after : Tree) : Prop where
  kept : before.KeepsDirectories after
  leads : Address.ofPath path = .ok (.path path) → ∃ name, LeadsTo after path name
  socket : ∀ name, LeadsTo after path name → after.node? name = some (.socket server)
  others : ∀ name, ¬LeadsTo after path name → after.node? name = before.node? name ∨
    before.node? name = none ∧ after.node? name = some .directory
  unused : ∀ free, Address.ofPath path = .ok (.name free) →
    before.outside.lookup free = none ∧ after.outside.lookup free = some server
  outside : ∀ free, Address.ofPath path ≠ .ok (.name free) →
    after.outside.lookup free = before.outside.lookup free

/-- Preparing a path makes directories and nothing else. -/
theorem grown_prepare {files made : Tree} {path : String} (h : prepare files path = .ok made) :
    Tree.Grown files made := by
  unfold prepare at h
  split at h
  · cases h
    exact .refl files
  · rename_i directory _
    cases hmade : files.makeDirectories directory with
    | error cause =>
      rw [hmade] at h
      cases h
    | ok tree =>
      rw [hmade] at h
      cases h
      exact Tree.grown_makeDirectories hmade

section

variable {files made after : Tree} {path : String} {server : Nat}

theorem bound_unnamed (address : Address.ofPath path = .ok .unnamed) (grown : files.Grown made) :
    Bound files path server made where
  kept := grown.keepsDirectories
  leads h := absurd (address.symm.trans h) nofun
  socket _ leads := absurd (address.symm.trans leads.1) nofun
  others name _ := grown.nodes name
  unused _ h := absurd (address.symm.trans h) nofun
  outside _ _ := congrArg (List.lookup _) grown.outside

theorem bound_name {free : String} (address : Address.ofPath path = .ok (.name free))
    (grown : files.Grown made) (h : Address.bind made server (.name free) = .ok after) :
    Bound files path server after := by
  simp only [Address.bind] at h
  split at h
  · cases h
  rename_i hfree
  rw [grown.outside, Option.not_isSome_iff_eq_none] at hfree
  obtain rfl := Except.ok.inj h
  constructor
  case kept => exact ⟨grown.working, grown.keepsDirectories.directories⟩
  case leads => exact fun h ↦ absurd (address.symm.trans h) nofun
  case socket => exact fun _ leads ↦ absurd (address.symm.trans leads.1) nofun
  case others => exact fun name _ ↦ grown.nodes name
  case unused =>
    intro other hother
    obtain rfl := Address.name.inj (Except.ok.inj (address.symm.trans hother))
    exact ⟨hfree, List.lookup_cons_self⟩
  case outside =>
    intro other hother
    have hne : (other == free) = false := beq_false_of_ne fun h ↦ hother (h ▸ address)
    rw [List.lookup_cons, hne, grown.outside]

/-- A socket is put where the path leads, when what was there has been removed. -/
theorem bound_path (address : Address.ofPath path = .ok (.path path)) (grown : files.Grown made)
    (h : Address.bind (made.discard path) server (.path path) = .ok after) :
    Bound files path server after := by
  have hremoved := Tree.Removed.discard made path
  simp only [Address.bind] at h
  split at h
  · rename_i place hvacant
    obtain rfl := Except.ok.inj h
    obtain ⟨proper, hnone⟩ := Tree.node?_of_vacant hvacant
    have hput : (made.discard path).KeepsDirectories ((made.discard path).put place (.socket server)) := by
      refine ⟨rfl, fun name hname ↦ ?_⟩
      rw [Tree.node?_put proper, if_neg, hname]
      rintro rfl
      exact absurd (hnone.symm.trans hname) nofun
    have hleads : LeadsTo ((made.discard path).put place (.socket server)) path place :=
      ⟨address, hput.resolve_eq (Tree.resolve_of_vacant hvacant)⟩
    constructor
    case kept => exact (grown.keepsDirectories.trans hremoved.keepsDirectories).trans hput
    case leads => exact fun _ ↦ ⟨place, hleads⟩
    case socket =>
      intro name leads
      rw [Tree.node?_put proper, if_pos (leads.unique hleads)]
    case others =>
      intro name elsewhere
      have hname : name ≠ place := fun h ↦ elsewhere (h ▸ hleads)
      rw [Tree.node?_put proper, if_neg hname]
      rcases hremoved.nodes name with hsame | ⟨hresolve, -⟩
      · rw [hsame]
        exact grown.nodes name
      · exact absurd ⟨address, (hremoved.keepsDirectories.trans hput).resolve_eq hresolve⟩ elsewhere
    case unused => exact fun _ h ↦ absurd (address.symm.trans h) nofun
    case outside =>
      exact fun _ _ ↦ congrArg (List.lookup _) (hremoved.outside.trans grown.outside)
  · cases h

/-- Binding a path comes to this for every kind of address. -/
theorem bound_of_bind (h : bind files path server = .ok after) : Bound files path server after := by
  unfold bind at h
  split at h
  · rename_i made address hmade haddress
    have hgrown := grown_prepare hmade
    cases address with
    | unnamed =>
      rw [discard_of_ofPath haddress nofun] at h
      obtain rfl := Except.ok.inj h
      exact bound_unnamed haddress hgrown
    | name free =>
      rw [discard_of_ofPath haddress nofun] at h
      exact bound_name haddress hgrown h
    | path text =>
      obtain ⟨rfl, -⟩ := Address.eq_of_ofPath haddress
      exact bound_path haddress hgrown h
  · cases h
  · cases h

theorem exists_address_of_bind (h : bind files path server = .ok after) :
    ∃ address, Address.ofPath path = .ok address := by
  unfold bind at h
  split at h
  · exact ⟨_, ‹_›⟩
  · cases h
  · cases h

/-! ## What dropping does -/

/-- The path of a server was removed, whatever was there unless it was a directory, and so was its name
outside the file tree. -/
structure Released (before : Tree) (path : String) (after : Tree) : Prop where
  kept : before.KeepsDirectories after
  gone : ∀ name, LeadsTo before path name → after.node? name = before.node? name ∨ after.node? name = none
  left : ∀ name, LeadsTo before path name → ∀ node, after.node? name = some node → node = .directory
  others : ∀ name, ¬LeadsTo before path name → after.node? name = before.node? name
  outside : ∀ free, Address.ofPath path ≠ .ok (.name free) →
    after.outside.lookup free = before.outside.lookup free

theorem lookup_filter_ne {free other : String} (h : other ≠ free) (entries : List (String × Nat)) :
    (entries.filter fun entry ↦ entry.1 != free).lookup other = entries.lookup other := by
  induction entries with
  | nil => rfl
  | cons entry entries ih =>
    by_cases hentry : entry.1 = free
    · have hother : (other == entry.1) = false := beq_false_of_ne (hentry ▸ h)
      rw [List.filter_cons_of_neg (by simp [hentry]), ih, List.lookup_cons, hother]
    · rw [List.filter_cons_of_pos (by simp [hentry]), List.lookup_cons, List.lookup_cons, ih]

theorem released_elsewhere {address : Address} (h : Address.ofPath path = .ok address)
    (elsewhere : ∀ text, address ≠ .path text) (outside : List (String × Nat))
    (others : ∀ free, Address.ofPath path ≠ .ok (.name free) →
      outside.lookup free = files.outside.lookup free) :
    Released files path { files with outside } where
  kept := ⟨rfl, fun _ h ↦ h⟩
  gone _ leads := absurd (Except.ok.inj (h.symm.trans leads.1)) (elsewhere path)
  left _ leads := absurd (Except.ok.inj (h.symm.trans leads.1)) (elsewhere path)
  others _ _ := rfl
  outside := others

/-- Releasing a path comes to this for every kind of address. -/
theorem released_release {address : Address} (h : Address.ofPath path = .ok address) :
    Released files path (release files path) := by
  rw [release, forget, h]
  cases address with
  | unnamed =>
    simp only
    rw [discard_of_ofPath h nofun]
    exact released_elsewhere h nofun files.outside fun _ _ ↦ rfl
  | name free =>
    simp only
    rw [discard_of_ofPath h nofun]
    refine released_elsewhere h nofun _ fun other hother ↦ lookup_filter_ne ?_ files.outside
    rintro rfl
    exact hother h
  | path text =>
    obtain ⟨rfl, hnul⟩ := Address.eq_of_ofPath h
    have hremoved := Tree.Removed.discard files text
    simp only
    constructor
    case kept => exact hremoved.keepsDirectories
    case gone => exact fun name _ ↦ (hremoved.nodes name).imp_right fun h ↦ h.2.2
    case left => exact fun name leads ↦ hremoved.gone hnul name leads.2
    case others =>
      exact fun name elsewhere ↦ (hremoved.nodes name).resolve_right fun leads ↦
        elsewhere ⟨h, leads.1⟩
    case outside => exact fun _ _ ↦ congrArg (List.lookup _) hremoved.outside

end

end Supervision.Admin
