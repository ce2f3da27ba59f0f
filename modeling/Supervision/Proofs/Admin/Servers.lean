import Supervision.Admin.Servers
import Supervision.Proofs.Admin.Sockets

/-!
# Sockets of live servers

Servers are bound and dropped in any order, at any paths.  A path leads to the same place from the time
it was bound, so the servers bound to one place can be told, however their paths are written.  The
socket of the last of them stands until one of them is dropped, whichever it is: a server that goes
removes what is where its path leads, without asking whose it is.
-/

namespace Supervision.Admin

open Files (Tree)

/-! ## Bound paths -/

def ServerMove.path? : ServerMove → Option String
  | bind path => some path
  | drop _ => none

/-- The paths of all servers that were bound, each at the number of its server. -/
def boundPaths (moves : List ServerMove) : List String := moves.filterMap ServerMove.path?

theorem boundPaths_append_bind (moves : List ServerMove) (path : String) :
    boundPaths (moves ++ [.bind path]) = boundPaths moves ++ [path] := by
  rw [boundPaths, List.filterMap_append]
  rfl

theorem boundPaths_append_drop (moves : List ServerMove) (number : Nat) :
    boundPaths (moves ++ [.drop number]) = boundPaths moves := by
  rw [boundPaths, List.filterMap_append]
  exact List.append_nil _

theorem getElem?_boundPaths_append_bind {moves : List ServerMove} {path other : String} {older : Nat} :
    (boundPaths (moves ++ [.bind path]))[older]? = some other ↔
      (boundPaths moves)[older]? = some other ∨ older = (boundPaths moves).length ∧ other = path := by
  rw [boundPaths_append_bind, List.getElem?_append]
  split
  · exact (or_iff_left fun h ↦ by omega).symm
  · rename_i hle
    rw [List.getElem?_eq_none (Nat.not_lt.mp hle), List.getElem?_singleton]
    constructor
    · intro h
      split at h
      · exact .inr ⟨by omega, (Option.some.inj h).symm⟩
      · cases h
    · rintro (h | ⟨rfl, rfl⟩)
      · cases h
      · simp

namespace Servers

/-! ## The moves, case by case -/

inductive Moved (servers : Servers) : ServerMove → Servers → Prop
  | bound {path : String} {files : Tree} (address : ∃ address, Address.ofPath path = .ok address)
      (bound : Bound servers.files path servers.bound files) :
      Moved servers (.bind path)
        ⟨files, servers.live ++ [⟨servers.bound, path⟩], servers.bound + 1⟩
  | dropped {number : Nat} {path : String} {files : Tree} (live : ⟨number, path⟩ ∈ servers.live)
      (released : Released servers.files path files) :
      Moved servers (.drop number)
        ⟨files, servers.live.filter fun other ↦ other.number != number, servers.bound⟩

/-- What can be told of the servers after some moves. -/
structure Standing (moves : List ServerMove) (servers : Servers) : Prop where
  bound : servers.bound = (boundPaths moves).length
  live : ∀ server ∈ servers.live, (boundPaths moves)[server.number]? = some server.path
  addressed : ∀ server ∈ servers.live, ∃ address, Address.ofPath server.path = .ok address
  /-- Every path that was bound in the file tree leads to the same place ever since. -/
  leads : ∀ path ∈ boundPaths moves, Address.ofPath path = .ok (.path path) →
    ∃ name, LeadsTo servers.files path name
  /-- Where the path of a live server leads there is nothing but directories and sockets, and a socket
  there is that of a live server which was not bound before this one. -/
  held : ∀ server ∈ servers.live, ∀ name, LeadsTo servers.files server.path name →
    ∀ node, servers.files.node? name = some node → node = .directory ∨
      ∃ holder ∈ servers.live, node = .socket holder.number ∧ server.number ≤ holder.number ∧
        LeadsTo servers.files holder.path name
  /-- A name outside the file tree is that of its live server. -/
  outside : ∀ server ∈ servers.live, ∀ free, Address.ofPath server.path = .ok (.name free) →
    servers.files.outside.lookup free = some server.number

/-! ## What one move keeps -/

variable {servers after final : Servers} {move : ServerMove} {moves later : List ServerMove}

theorem standing_start (files : Tree) : Standing [] (start files) where
  bound := rfl
  live := List.forall_mem_nil _
  addressed := List.forall_mem_nil _
  leads := List.forall_mem_nil _
  held := List.forall_mem_nil _
  outside := List.forall_mem_nil _

/-- A live server was bound to a path that stands for an address, so dropping it releases that
path. -/
theorem Standing.moved (standing : Standing moves servers) (h : servers.advance move = some after) :
    Moved servers move after := by
  cases move with
  | bind path =>
    simp only [advance] at h
    split at h
    · rename_i files hbind
      obtain rfl := Option.some.inj h
      exact .bound (exists_address_of_bind hbind) (bound_of_bind hbind)
    · cases h
  | drop number =>
    obtain ⟨⟨other, path⟩, hfind, rfl⟩ := Option.map_eq_some_iff.mp h
    obtain rfl : other = number := by simpa using List.find?_some hfind
    have hlive := List.mem_of_find?_eq_some hfind
    obtain ⟨address, haddress⟩ := standing.addressed _ hlive
    exact .dropped hlive (released_release haddress)

/-- No server takes a directory away. -/
theorem Moved.kept (h : Moved servers move after) :
    servers.files.KeepsDirectories after.files := by
  cases h with
  | bound _ bound => exact bound.kept
  | dropped _ released => exact released.kept

/-- A server stays live unless it is the one that is dropped. -/
theorem Moved.mem_live (h : Moved servers move after) {server : Server}
    (live : server ∈ servers.live) (kept : move ≠ .drop server.number) : server ∈ after.live := by
  cases h with
  | bound _ _ => exact List.mem_append_left _ live
  | dropped _ _ =>
    refine List.mem_filter.mpr ⟨live, bne_iff_ne.mpr ?_⟩
    rintro rfl
    exact kept rfl

/-- A path that was bound has led where it leads since then. -/
theorem Standing.led (standing : Standing moves servers)
    (kept : servers.files.KeepsDirectories after.files) {path : String} {name : List String}
    (h : path ∈ boundPaths moves) (leads : LeadsTo after.files path name) :
    LeadsTo servers.files path name := by
  obtain ⟨place, hplace⟩ := standing.leads path h leads.1
  obtain rfl := leads.unique (hplace.later kept)
  exact hplace

theorem Standing.path_mem (standing : Standing moves servers) {server : Server}
    (h : server ∈ servers.live) : server.path ∈ boundPaths moves :=
  List.mem_of_getElem? (standing.live server h)

theorem Standing.number_lt (standing : Standing moves servers) {server : Server}
    (h : server ∈ servers.live) : server.number < servers.bound := by
  obtain ⟨hlt, -⟩ := List.getElem?_eq_some_iff.mp (standing.live server h)
  rwa [standing.bound]

/-- Live servers of one number have one path. -/
theorem Standing.path_eq (standing : Standing moves servers) {server other : Server}
    (h : server ∈ servers.live) (hother : other ∈ servers.live)
    (number : server.number = other.number) : server.path = other.path := by
  have hpath := standing.live server h
  rw [number] at hpath
  exact Option.some.inj (hpath.symm.trans (standing.live other hother))

/-- A server that is bound holds its place as the last one there. -/
theorem Standing.append_bind (standing : Standing moves servers) {path : String} {files : Tree}
    (address : ∃ address, Address.ofPath path = .ok address)
    (bound : Bound servers.files path servers.bound files) :
    Standing (moves ++ [.bind path])
      ⟨files, servers.live ++ [⟨servers.bound, path⟩], servers.bound + 1⟩ := by
  constructor
  case bound =>
    rw [boundPaths_append_bind, List.length_append, ← standing.bound]
    rfl
  case live =>
    simp only [List.forall_mem_append, List.forall_mem_singleton, getElem?_boundPaths_append_bind]
    exact ⟨fun server h ↦ .inl (standing.live server h), .inr ⟨standing.bound, trivial⟩⟩
  case addressed =>
    simp only [List.forall_mem_append, List.forall_mem_singleton]
    exact ⟨standing.addressed, address⟩
  case leads =>
    simp only [boundPaths_append_bind, List.forall_mem_append, List.forall_mem_singleton]
    refine ⟨fun earlier h haddress ↦ ?_, bound.leads⟩
    obtain ⟨name, hname⟩ := standing.leads earlier h haddress
    exact ⟨name, hname.later bound.kept⟩
  case held =>
    intro server h name leads node hnode
    have hnew : ⟨servers.bound, path⟩ ∈ servers.live ++ [(⟨servers.bound, path⟩ : Server)] :=
      List.mem_append_right _ (List.mem_singleton_self _)
    by_cases hpath : LeadsTo files path name
    · obtain rfl := Option.some.inj ((bound.socket name hpath).symm.trans hnode)
      refine .inr ⟨_, hnew, rfl, ?_, hpath⟩
      rcases List.mem_append.mp h with h | h
      · exact Nat.le_of_lt (standing.number_lt h)
      · exact Nat.le_of_eq (congrArg Server.number (List.mem_singleton.mp h))
    · rcases List.mem_append.mp h with h | h
      · rcases bound.others name hpath with hsame | ⟨-, hdirectory⟩
        · have hbefore := standing.led bound.kept (standing.path_mem h) leads
          refine (standing.held server h name hbefore node (hsame ▸ hnode)).imp_right ?_
          rintro ⟨holder, hholder, hsocket, hle, hleads⟩
          exact ⟨holder, List.mem_append_left _ hholder, hsocket, hle, hleads.later bound.kept⟩
        · exact .inl (Option.some.inj (hnode.symm.trans hdirectory))
      · rw [List.mem_singleton.mp h] at leads
        exact absurd leads hpath
  case outside =>
    intro server h free haddress
    rcases List.mem_append.mp h with h | h
    · have hbefore := standing.outside server h free haddress
      rw [bound.outside free fun hfree ↦ ?_]
      · exact hbefore
      · exact absurd ((bound.unused free hfree).1.symm.trans hbefore) nofun
    · rw [List.mem_singleton.mp h] at haddress ⊢
      exact (bound.unused free haddress).2

theorem Standing.append_drop (standing : Standing moves servers) {number : Nat} {path : String}
    {files : Tree} (live : ⟨number, path⟩ ∈ servers.live)
    (released : Released servers.files path files) :
    Standing (moves ++ [.drop number])
      ⟨files, servers.live.filter fun other ↦ other.number != number, servers.bound⟩ := by
  have hmem {server : Server} : server ∈ servers.live.filter (fun other ↦ other.number != number) ↔
      server ∈ servers.live ∧ server.number ≠ number := by
    simp
  constructor
  case bound => rw [boundPaths_append_drop, standing.bound]
  case live =>
    intro server h
    rw [boundPaths_append_drop]
    exact standing.live server (hmem.mp h).1
  case addressed => exact fun server h ↦ standing.addressed server (hmem.mp h).1
  case leads =>
    rw [boundPaths_append_drop]
    intro earlier h haddress
    obtain ⟨name, hname⟩ := standing.leads earlier h haddress
    exact ⟨name, hname.later released.kept⟩
  case held =>
    intro server h name leads node hnode
    have hbefore := standing.led released.kept (standing.path_mem (hmem.mp h).1) leads
    by_cases hdropped : LeadsTo servers.files path name
    · exact .inl (released.left name hdropped node hnode)
    · rw [released.others name hdropped] at hnode
      refine (standing.held server (hmem.mp h).1 name hbefore node hnode).imp_right ?_
      rintro ⟨holder, hholder, hsocket, hle, hleads⟩
      refine ⟨holder, hmem.mpr ⟨hholder, fun hnumber ↦ ?_⟩, hsocket, hle, hleads.later released.kept⟩
      have hsame : holder.path = path := standing.path_eq hholder live hnumber
      exact hdropped (hsame ▸ hleads)
  case outside =>
    intro server h free haddress
    obtain ⟨hlive, hnumber⟩ := hmem.mp h
    have hbefore := standing.outside server hlive free haddress
    rw [released.outside free fun hfree ↦ ?_]
    · exact hbefore
    · exact hnumber (Option.some.inj (hbefore.symm.trans (standing.outside _ live free hfree)))

theorem Standing.advance (standing : Standing moves servers) (h : servers.advance move = some after) :
    Standing (moves ++ [move]) after := by
  cases standing.moved h with
  | bound address bound => exact standing.append_bind address bound
  | dropped live released => exact standing.append_drop live released

/-- What can be told of the servers stays so in any number of moves, in which no directory goes and no
server but those that are dropped. -/
theorem Standing.follow (standing : Standing moves servers) (h : servers.follow later = some final) :
    Standing (moves ++ later) final ∧ servers.files.KeepsDirectories final.files ∧
      ∀ server ∈ servers.live, .drop server.number ∉ later → server ∈ final.live := by
  induction later generalizing servers moves with
  | nil =>
    obtain rfl := Option.some.inj h
    rw [List.append_nil]
    exact ⟨standing, .refl _, fun _ live _ ↦ live⟩
  | cons move later ih =>
    obtain ⟨after, made, hrest⟩ := Option.bind_eq_some_iff.mp h
    obtain ⟨hstanding, hkept, hlive⟩ := ih (standing.advance made) hrest
    have hmoved := standing.moved made
    rw [List.append_assoc] at hstanding
    refine ⟨hstanding, hmoved.kept.trans hkept, fun server live kept ↦ ?_⟩
    obtain ⟨hmove, hlater⟩ := not_or.mp (mt List.mem_cons.mpr kept)
    exact hlive server (hmoved.mem_live live (Ne.symm hmove)) hlater

/-! ## Many moves -/

/-- None of the servers that were bound earlier to this place is dropped later. -/
def Undisturbed (files : Tree) (earlier later : List ServerMove) (name : List String) : Prop :=
  ∀ older path, (boundPaths earlier)[older]? = some path → LeadsTo files path name →
    .drop older ∉ later

section

variable {files : Tree} {path : String} {name : List String} {number : Nat}

/-- A server that is bound elsewhere does not matter to this place. -/
theorem undisturbed_append_bind (h : ¬LeadsTo files path name) :
    Undisturbed files (moves ++ [.bind path]) later name ↔
      Undisturbed files moves (.bind path :: later) name := by
  constructor
  · intro undisturbed older other hother leads hdrop
    refine undisturbed older other ?_ leads ((List.mem_cons.mp hdrop).resolve_left nofun)
    exact getElem?_boundPaths_append_bind.mpr (.inl hother)
  · intro undisturbed older other hother leads hdrop
    rcases getElem?_boundPaths_append_bind.mp hother with hother | ⟨-, rfl⟩
    · exact undisturbed older other hother leads (List.mem_cons_of_mem _ hdrop)
    · exact h leads

theorem undisturbed_append_live (live : .drop (boundPaths moves).length ∉ later) :
    Undisturbed files (moves ++ [.bind path]) later name ↔ Undisturbed files moves later name := by
  constructor
  · intro undisturbed older other hother
    exact undisturbed older other (getElem?_boundPaths_append_bind.mpr (.inl hother))
  · intro undisturbed older other hother leads
    rcases getElem?_boundPaths_append_bind.mp hother with hother | ⟨rfl, -⟩
    · exact undisturbed older other hother leads
    · exact live

theorem undisturbed_append_drop (bound : (boundPaths moves)[number]? = some path) :
    Undisturbed files moves (.drop number :: later) name ↔
      ¬LeadsTo files path name ∧ Undisturbed files (moves ++ [.drop number]) later name := by
  rw [Undisturbed, Undisturbed, boundPaths_append_drop]
  constructor
  · intro undisturbed
    refine ⟨fun leads ↦ undisturbed number path bound leads List.mem_cons_self, ?_⟩
    exact fun older other hother leads hdrop ↦
      undisturbed older other hother leads (List.mem_cons_of_mem _ hdrop)
  · rintro ⟨elsewhere, undisturbed⟩ older other hother leads hdrop
    rcases List.mem_cons.mp hdrop with h | hdrop
    · obtain rfl := ServerMove.drop.inj h
      obtain rfl := Option.some.inj (bound.symm.trans hother)
      exact elsewhere leads
    · exact undisturbed older other hother leads hdrop

end

/-- A socket stands after some moves just if it stood before them and no server of its place was
dropped, when none was bound there. -/
theorem Standing.socket_iff {name : List String} {number : Nat} (standing : Standing moves servers)
    (run : servers.follow later = some final)
    (latest : ∀ path ∈ boundPaths later, ¬LeadsTo final.files path name) :
    final.files.node? name = some (.socket number) ↔
      servers.files.node? name = some (.socket number) ∧
        Undisturbed final.files moves later name := by
  induction later generalizing servers moves with
  | nil =>
    obtain rfl := Option.some.inj run
    simp [Undisturbed]
  | cons move later ih =>
    obtain ⟨after, made, hrest⟩ := Option.bind_eq_some_iff.mp run
    have hafter := standing.advance made
    obtain ⟨-, hkept, -⟩ := hafter.follow hrest
    cases standing.moved made with
    | @bound path files address bound =>
      obtain ⟨hpath, hlater⟩ := List.forall_mem_cons.mp latest
      rw [ih hafter hrest hlater, undisturbed_append_bind hpath]
      refine and_congr_left fun _ ↦ ?_
      rcases bound.others name fun h ↦ hpath (h.later hkept) with hsame | ⟨hnone, hdirectory⟩
      · rw [hsame]
      · simp [hnone, hdirectory]
    | @dropped dropped path files live released =>
      have hbound : (boundPaths moves)[dropped]? = some path := standing.live _ live
      rw [ih hafter hrest latest, undisturbed_append_drop hbound]
      have hleads : LeadsTo final.files path name ↔ LeadsTo servers.files path name :=
        ⟨standing.led (released.kept.trans hkept) (standing.path_mem live),
          fun h ↦ h.later (released.kept.trans hkept)⟩
      rw [hleads]
      by_cases hpath : LeadsTo servers.files path name
      · have hsocket : ¬files.node? name = some (.socket number) := fun h ↦
          absurd (released.left name hpath _ h) nofun
        simp [hsocket, hpath]
      · rw [released.others name hpath]
        simp [hpath]

/-- A client reaches the live server whose socket is where its path leads. -/
theorem reach_eq_ok_iff {path : String} {name : List String} {number : Nat}
    (leads : LeadsTo servers.files path name) (live : number ∈ servers.live.map Server.number) :
    servers.reach path = .ok number ↔ servers.files.node? name = some (.socket number) := by
  rw [reach, connect, leads.1]
  simp only [Tree.find_eq leads.2]
  cases hnode : servers.files.node? name with
  | none => simp
  | some node =>
    cases node with
    | socket other =>
      simp only [Option.elim_some, Option.some.injEq, Files.Node.socket.injEq]
      constructor
      · intro h
        split at h
        · exact Except.ok.inj h
        · cases h
      · rintro rfl
        exact if_pos (List.contains_iff_mem.mpr live)
    | _ => simp

/-- A dropped server has taken at most one socket away: its own, or that of a live server bound after
it where its path leads. -/
structure TakesAtMostOne (servers : Servers) (number : Nat) (path : String) (after : Servers) : Prop where
  nodes : ∀ name, after.files.node? name = servers.files.node? name ∨
    after.files.node? name = none ∧ LeadsTo servers.files path name ∧
      ∃ holder ∈ servers.live, servers.files.node? name = some (.socket holder.number) ∧
        number ≤ holder.number ∧ LeadsTo servers.files holder.path name
  outside : ∀ free server, servers.files.outside.lookup free = some server →
    after.files.outside.lookup free = some server ∨ server = number

/-- Where the path of a dropped server leads there was at most one socket, which is that of a live
server. -/
theorem Standing.takesAtMostOne {number : Nat} (standing : Standing moves servers)
    (made : servers.advance (.drop number) = some after) :
    ∃ path, (boundPaths moves)[number]? = some path ∧ servers.TakesAtMostOne number path after := by
  cases standing.moved made with
  | @dropped _ path files live released =>
    refine ⟨path, standing.live _ live, fun name ↦ ?_, fun free server hserver ↦ ?_⟩
    · by_cases hpath : LeadsTo servers.files path name
      · rcases released.gone name hpath with hsame | hnone
        · exact .inl hsame
        · rcases hnode : servers.files.node? name with - | node
          · exact .inl hnone
          · obtain rfl | ⟨holder, hholder, rfl, hle, hleads⟩ :=
              standing.held _ live name hpath node hnode
            · exact .inl (released.kept.directories name hnode)
            · exact .inr ⟨hnone, hpath, holder, hholder, rfl, hle, hleads⟩
      · exact .inl (released.others name hpath)
    · by_cases hfree : Address.ofPath path = .ok (.name free)
      · exact .inr (Option.some.inj (hserver.symm.trans (standing.outside _ live free hfree)))
      · exact .inl ((released.outside free hfree).trans hserver)

/-! ## The whole -/

/-- The server that was bound last to a path is reached there as long as it is live, unless one that
had been bound to the place before is dropped. -/
structure KeepsSocket (earlier : List ServerMove) (path : String) (later : List ServerMove)
    (final : Servers) : Prop where
  place : Address.ofPath path = .ok (.path path) → ∃ name, LeadsTo final.files path name ∧
    (final.files.node? name = some (.socket (boundPaths earlier).length) ↔
      Undisturbed final.files earlier later name) ∧
    (final.reach path = .ok (boundPaths earlier).length ↔
      Undisturbed final.files earlier later name)
  /-- No other server can be bound to a name outside the file tree that is taken. -/
  named : ∀ free, Address.ofPath path = .ok (.name free) →
    final.reach path = .ok (boundPaths earlier).length
  /-- A server that was bound to nothing is not reached. -/
  unnamed : Address.ofPath path = .ok .unnamed →
    final.reach path = .error (.ofErrno .invalidArgument)

/-- Of all that comes after a bind, only drops of servers bound to the place before it take the
socket away. -/
theorem Standing.keepsSocket {earlier : List ServerMove} {before middle : Servers} {path : String}
    (standing : Standing earlier before) (made : before.advance (.bind path) = some middle)
    (run : middle.follow later = some final) (live : .drop (boundPaths earlier).length ∉ later)
    (latest : ∀ other ∈ boundPaths later, ∀ name,
      LeadsTo final.files other name → ¬LeadsTo final.files path name) :
    KeepsSocket earlier path later final := by
  have hmiddle := standing.advance made
  obtain ⟨hfinal, hkept, hstays⟩ := hmiddle.follow run
  rw [← standing.bound] at live
  have hlive : (⟨before.bound, path⟩ : Server) ∈ final.live := by
    refine hstays _ ?_ live
    cases standing.moved made
    exact List.mem_append_right _ (List.mem_singleton_self _)
  constructor
  case place =>
    intro haddress
    obtain ⟨name, hname⟩ : ∃ name, LeadsTo middle.files path name ∧
        middle.files.node? name = some (.socket before.bound) := by
      cases standing.moved made with
      | bound _ bound =>
        obtain ⟨name, hname⟩ := bound.leads haddress
        exact ⟨name, hname, bound.socket name hname⟩
    have hleads := hname.1.later hkept
    have hiff : final.files.node? name = some (.socket before.bound) ↔
        Undisturbed final.files earlier later name := by
      rw [hmiddle.socket_iff run fun other hother h ↦ latest other hother name h hleads,
        undisturbed_append_live (standing.bound ▸ live)]
      exact and_iff_right hname.2
    have hnumber := List.mem_map_of_mem (f := Server.number) hlive
    rw [← standing.bound]
    exact ⟨name, hleads, hiff, (reach_eq_ok_iff hleads hnumber).trans hiff⟩
  case named =>
    intro free haddress
    have hlookup := hfinal.outside _ hlive free haddress
    have hnumber := List.mem_map_of_mem (f := Server.number) hlive
    rw [reach, connect, haddress, ← standing.bound]
    simp only [hlookup]
    exact if_pos (List.contains_iff_mem.mpr hnumber)
  case unnamed =>
    intro haddress
    rw [reach, connect, haddress]

/-- Whatever servers are bound and dropped, to whichever paths, the one that was bound last to a place
in the file tree keeps its socket there as long as it is live just if no server that had been bound to
the place before is dropped meanwhile.  A dropped server takes away no more than one socket, which is
its own unless another was bound to the place after it. -/
theorem live_servers_keep_sockets (files : Tree) :
    (∀ earlier path later final,
      (start files).follow (earlier ++ .bind path :: later) = some final →
      .drop (boundPaths earlier).length ∉ later →
      (∀ other ∈ boundPaths later, ∀ name,
        LeadsTo final.files other name → ¬LeadsTo final.files path name) →
      KeepsSocket earlier path later final) ∧
    ∀ moves servers number after, (start files).follow moves = some servers →
      servers.advance (.drop number) = some after →
      ∃ path, (boundPaths moves)[number]? = some path ∧
        servers.TakesAtMostOne number path after := by
  constructor
  · intro earlier path later final run live latest
    rw [follow, List.foldlM_append] at run
    obtain ⟨before, hbefore, hrest⟩ := Option.bind_eq_some_iff.mp run
    obtain ⟨middle, made, hlater⟩ := Option.bind_eq_some_iff.mp hrest
    obtain ⟨standing, -, -⟩ := (standing_start files).follow hbefore
    exact standing.keepsSocket made hlater live latest
  · intro moves servers number after run made
    obtain ⟨standing, -, -⟩ := (standing_start files).follow run
    exact standing.takesAtMostOne made

/-- The server before was dropped in time, and the one after is bound elsewhere and dropped. -/
theorem live_servers_keep_sockets_successor :
    ∃ final, (start (.around ["run"])).follow
        ([.bind "admin.sock", .drop 0] ++ .bind "./admin.sock" :: [.bind "d/admin.sock", .drop 2]) =
          some final ∧
      final.reach "admin.sock" = .ok 1 ∧ final.reach "./admin.sock" = .ok 1 := by
  have run := show (start (.around ["run"])).follow
    ([.bind "admin.sock", .drop 0] ++ .bind "./admin.sock" :: [.bind "d/admin.sock", .drop 2]) =
      some _ from rfl
  obtain ⟨hkeeps, -⟩ := live_servers_keep_sockets (.around ["run"])
  have hsocket := hkeeps _ _ _ _ run (by decide) fun other hother name elsewhere leads ↦ by
    obtain rfl := List.mem_singleton.mp hother
    exact absurd (elsewhere.2.trans leads.2.symm) (by decide)
  obtain ⟨name, leads, -, hreach⟩ := hsocket.place rfl
  refine ⟨_, run, ?_, hreach.mpr fun older other hother _ hdrop ↦ ?_⟩
  · rfl
  · obtain ⟨hlt, -⟩ := List.getElem?_eq_some_iff.mp hother
    obtain rfl : older = 2 := by simpa using hdrop
    exact absurd hlt (by decide)

/-- A server that is dropped takes the socket of the one that was bound to its path after it, which is
live and is not reached any more.  A server that is bound to the empty path has no socket to reach. -/
theorem older_server_takes_socket :
    (∃ final, (start (.around ["run"])).follow
        [.bind "admin.sock", .bind "admin.sock", .drop 0] = some final ∧
      final.live = [⟨1, "admin.sock"⟩] ∧ final.files.find "admin.sock" = .error .noSuchFile ∧
      final.reach "admin.sock" = .error (.ofErrno .noSuchFile)) ∧
    ∃ final, (start (.around ["run"])).follow [.bind ""] = some final ∧ final.live = [⟨0, ""⟩] ∧
      final.files.exists "" = false ∧ final.reach "" = .error (.ofErrno .invalidArgument) :=
  ⟨⟨_, rfl, rfl, rfl, rfl⟩, ⟨_, rfl, rfl, rfl, rfl⟩⟩

end Servers

end Supervision.Admin
