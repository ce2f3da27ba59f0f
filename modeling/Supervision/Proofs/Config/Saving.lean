import Supervision.Proofs.Config.Specs
import Supervision.Proofs.Json.Typed
import Supervision.Proofs.Json.Written

/-!
# Configurations survive saving

What was left out of a document is filled in when it is read and left out again where there is nothing
to say when it is written, and both agree on what that is.  The variables of a process are a map, so
they may be written in any order.
-/

namespace Supervision.Config

open Json Json.Reader

/-- An entry as it may be written, with its variables in any order. -/
def ProcessEntry.WrittenAs (entry written : ProcessEntry) : Prop :=
  ∃ environment : Environment, environment.entries.Perm entry.environment.entries ∧
    written = { entry with environment := environment }

/-- A configuration as it may be written, with its processes in their order. -/
def Launcher.WrittenAs (config written : Launcher) : Prop :=
  ∃ processes, List.Forall₂ ProcessEntry.WrittenAs config.processes processes ∧
    written = { config with processes := processes }

/-- A text that a configuration may be saved as. -/
def Launcher.SavedAs (config : Launcher) (saved : String) : Prop :=
  ∃ written, config.WrittenAs written ∧ Text.Utf8.encode saved = written.toJson.compact

/-! ## What is written is read -/

theorem accepts_signal (signal : Signal) : readSignal.Accepts (.text signal.name) signal := by
  refine Accepts.finish signal.name (.text signal.name) ?_
  rw [signal.parse_name]
  exact .pure signal

/-- Variables read back from any order in which they are written. -/
theorem accepts_environment {environment written : Environment} (sorted : environment.Sorted)
    (listed : written.entries.Perm environment.entries) :
    readEnvironment.Accepts (environmentJson written) environment := by
  have hentries : (Reader.map Reader.text).Accepts (environmentJson written) written.entries := by
    apply Accepts.entries
    rw [List.forall₂_map_left_iff, List.forall₂_same]
    exact fun entry _ ↦ ⟨rfl, .text entry.2⟩
  have hread := hentries.map Environment.ofList
  rwa [sorted.ofList_eq listed] at hread

theorem accepts_restart (entry : RestartEntry) : readRestart.Accepts entry.toJson entry := by
  refine Accepts.finish (⟨some entry.limit, some entry.delayMillis⟩ : RestartDraft)
    (Accepts.record ?_ ?_) (.pure entry)
  · apply Fills.cons rfl rfl ((Accepts.word32 entry.limit).map _)
    apply Fills.cons rfl rfl ((Accepts.word64 entry.delayMillis).map _)
    exact .nil _
  · simp [Member.orElse]

section

variable {σ α β : Type} {members : List (Member σ)} {name : String} {get : σ → Option β}
  {set : β → σ → σ} {default : β} {reader : Reader β}

/-- A member that has a default is written only if there is something to say. -/
theorem fills_memberIf {write : α → Json} {value : Option α} (draft : Option β → σ) (read : α → β)
    (known : members.find? (·.name == name) = some (.orElse name get set default reader))
    (unset : get (draft none) = none)
    (sets : ∀ content, set content (draft none) = draft (some content))
    (accepts : ∀ content, value = some content → reader.Accepts (write content) (read content)) :
    Fills members (draft none) (memberIf name value write) (draft (value.map read)) := by
  cases value with
  | none => exact .nil _
  | some content =>
    refine .cons known ?_ ?_ (.nil _)
    · change (get (draft none)).isSome = false
      rw [unset]
      rfl
    · rw [Option.map_some, ← sets]
      exact (accepts content rfl).map _

/-- A member that has a default is settled, whether it was written or not. -/
theorem settleMembers_default (draft : Option β → σ) {value : Option β} {content : β}
    (given : value.getD default = content) (gets : ∀ content, get (draft content) = content)
    (sets : set default (draft none) = draft (some default)) :
    settleMembers (.orElse name get set default reader :: members) (draft value) =
      settleMembers members (draft (some content)) := by
  rw [← given]
  apply settleMembers_orElse
  rw [gets]
  cases value with
  | none => exact sets
  | some content => rfl

end

/-- What was left out for nothing is nothing. -/
theorem getD_map_some {α : Type} (value : Option α) : (value.map some).getD none = value := by
  cases value <;> rfl

/-- An environment that was left out for nothing is empty. -/
theorem getD_nonempty {environment assigned : Environment}
    (listed : environment.entries.Perm assigned.entries) :
    ((if environment.entries.isEmpty then none else some environment).map fun _ ↦ assigned).getD
      .empty = assigned := by
  cases hempty : environment.entries.isEmpty with
  | false => rfl
  | true =>
    rw [listed.isEmpty_eq, List.isEmpty_iff] at hempty
    cases assigned
    cases hempty
    rfl

/-- An entry reads back from every form in which it may be written. -/
theorem accepts_process {entry written : ProcessEntry} (sorted : entry.environment.Sorted)
    (h : entry.WrittenAs written) : readProcess.Accepts written.toJson entry := by
  obtain ⟨environment, listed, rfl⟩ := h
  obtain ⟨name, command, assigned, directory, stopSignal, restart⟩ := entry
  let draft (assigned : Option Environment) (directory : Option (Option String))
      (stopSignal : Option (Option Signal)) (restart : Option (Option RestartEntry)) :
      ProcessDraft := ⟨some name, some command, assigned, directory, stopSignal, restart⟩
  let nonempty : Option Environment :=
    (if environment.entries.isEmpty then none else some environment).map fun _ ↦ assigned
  let filled : ProcessDraft :=
    draft nonempty (directory.map some) (stopSignal.map some) (restart.map some)
  let settled : ProcessDraft := draft (some assigned) (some directory) (some stopSignal) (some restart)
  refine Accepts.finish settled (Accepts.record_settled filled ?_ ?_) (.pure _)
  · apply Fills.append (draft nonempty (directory.map some) (stopSignal.map some) none)
    · apply Fills.append (draft nonempty (directory.map some) none none)
      · apply Fills.append (draft nonempty none none none)
        · apply Fills.append (draft none none none none)
          · apply Fills.cons rfl rfl ((Accepts.text name).map _)
            apply Fills.cons rfl rfl ((Accepts.text command).map _)
            exact .nil _
          · apply fills_memberIf (draft · none none none) (fun _ ↦ assigned) rfl rfl fun _ ↦ rfl
            intro content hcontent
            obtain rfl : environment = content := by
              split at hcontent
              · cases hcontent
              · exact Option.some.inj hcontent
            exact accepts_environment sorted listed
        · exact fills_memberIf (draft nonempty · none none) some rfl rfl (fun _ ↦ rfl)
            fun directory _ ↦ .optional_some (.path directory) nofun
      · exact fills_memberIf (draft nonempty (directory.map some) · none) some rfl rfl
          (fun _ ↦ rfl) fun signal _ ↦ .optional_some (accepts_signal signal) nofun
    · exact fills_memberIf (draft nonempty (directory.map some) (stopSignal.map some) ·) some rfl rfl
        (fun _ ↦ rfl) fun restart _ ↦ .optional_some (accepts_restart restart) nofun
  · rw [settleMembers_required rfl, settleMembers_required rfl]
    refine (settleMembers_default (draft · _ _ _) (getD_nonempty listed) (fun _ ↦ rfl) rfl).trans ?_
    refine (settleMembers_default (draft _ · _ _) (getD_map_some _) (fun _ ↦ rfl) rfl).trans ?_
    refine (settleMembers_default (draft _ _ · _) (getD_map_some _) (fun _ ↦ rfl) rfl).trans ?_
    refine (settleMembers_default (draft _ _ _ ·) (getD_map_some _) (fun _ ↦ rfl) rfl).trans ?_
    rfl

theorem accepts_output (output : Output.ChannelKind) : readOutput.Accepts (outputJson output) output := by
  cases output <;> exact Accepts.variant_plain rfl

/-- A configuration reads back from every form in which it may be written. -/
theorem accepts_launcher {config written : Launcher} (sorted : config.Sorted)
    (h : config.WrittenAs written) : readLauncher.Accepts written.toJson config := by
  obtain ⟨entries, listed, rfl⟩ := h
  obtain ⟨name, gracefulMillis, output, adminSocket, processes⟩ := config
  have hprocesses : (Reader.list readProcess).Accepts (.list (entries.map ProcessEntry.toJson))
      processes := by
    apply Accepts.list
    rw [List.forall₂_map_left_iff]
    have hboth := (List.forall₂_and_left processes entries).mpr ⟨sorted, listed⟩
    exact (hboth.imp fun _ _ ⟨hsorted, hwritten⟩ ↦ accepts_process hsorted hwritten).flip
  let draft (adminSocket : Option (Option String)) (processes : Option (List ProcessEntry)) :
      LauncherDraft := ⟨some name, some gracefulMillis, some output, adminSocket, processes⟩
  let filled : LauncherDraft := draft (adminSocket.map some) (some processes)
  let settled : LauncherDraft := draft (some adminSocket) (some processes)
  refine Accepts.finish settled (Accepts.record_settled filled ?_ ?_) (.pure _)
  · apply Fills.append (draft (adminSocket.map some) none)
    · apply Fills.append (draft none none)
      · apply Fills.cons rfl rfl ((Accepts.text name).map _)
        apply Fills.cons rfl rfl ((Accepts.word64 gracefulMillis).map _)
        apply Fills.cons rfl rfl ((accepts_output output).map _)
        exact .nil _
      · exact fills_memberIf (draft · none) some rfl rfl (fun _ ↦ rfl)
          fun path _ ↦ .optional_some (.path path) nofun
    · apply Fills.cons rfl rfl (hprocesses.map _)
      exact .nil _
  · rw [settleMembers_orElse filled rfl, settleMembers_orElse filled rfl,
      settleMembers_orElse filled rfl]
    refine (settleMembers_default (draft · _) (getD_map_some _) (fun _ ↦ rfl) rfl).trans ?_
    rw [settleMembers_orElse settled rfl]
    rfl

/-! ## Saving and loading -/

section

variable {config : Launcher} {loaded : Loaded} {env : Environment} {saved : String}

/-- Every configuration can be saved. -/
theorem Launcher.exists_saved (config : Launcher) : ∃ saved, config.SavedAs saved := by
  have hwritten : config.WrittenAs config := by
    refine ⟨config.processes, List.forall₂_same.mpr fun entry _ ↦ ?_, rfl⟩
    exact ⟨entry.environment, .refl _, rfl⟩
  obtain ⟨saved, hsaved⟩ := isText_compact config.toJson
  exact ⟨saved, config, hwritten, hsaved⟩

theorem Launcher.SavedAs.read_eq (sorted : config.Sorted) (h : config.SavedAs saved) :
    readLauncher.read (Text.Utf8.encode saved) = .ok config := by
  obtain ⟨written, hwritten, hsaved⟩ := h
  rw [hsaved]
  exact (accepts_launcher sorted hwritten).read_eq

/-- A configuration that passes its checks is loaded as it was saved. -/
theorem Launcher.SavedAs.parse_eq (sorted : config.Sorted) (h : config.SavedAs saved)
    (checked : check config env = .ok loaded) (other : Environment) :
    parse other saved = .ok loaded := by
  unfold parse
  rw [h.read_eq sorted]
  exact (check_eq config other env).trans checked

end

/-- A configuration that passes its checks can be saved, and however its variables are ordered then, it
is loaded as it was, in every environment.  So what a document says, saved and loaded again, is what
the document says. -/
theorem configurations_survive_saving :
    (∀ (config : Launcher) (env : Environment) (loaded : Loaded), config.Sorted →
      check config env = .ok loaded → loaded.config = config ∧ (∃ saved, config.SavedAs saved) ∧
        ∀ saved, config.SavedAs saved → ∀ other, parse other saved = .ok loaded) ∧
    ∀ (document : String) (env : Environment) (loaded : Loaded), parse env document = .ok loaded →
      (∃ saved, loaded.config.SavedAs saved) ∧
        ∀ saved, loaded.config.SavedAs saved → ∀ other, parse other saved = parse env document := by
  refine ⟨fun config env loaded sorted checked ↦ ?_, fun document env loaded h ↦ ?_⟩
  · obtain ⟨_, _, hloaded⟩ := check_eq_ok_iff.mp checked
    refine ⟨congrArg Loaded.config hloaded, config.exists_saved, fun saved hsaved other ↦ ?_⟩
    exact hsaved.parse_eq sorted checked other
  · obtain ⟨hread, hcheck⟩ := parse_eq_ok_iff.mp h
    have hsorted : loaded.config.Sorted := yields_launcher.of_read hread
    refine ⟨loaded.config.exists_saved, fun saved hsaved other ↦ ?_⟩
    rw [h]
    exact hsaved.parse_eq hsorted hcheck other

/-- Two processes of one name, with variables, a control character and members that are left out. -/
def twoSites : Launcher where
  name := "sites"
  gracefulMillis := 250
  output := .pipe
  adminSocket := none
  processes :=
    [⟨"web", "serve --port '80 80'", .ofList [("ROOT", "${HOME}/web"), ("BELL", "\x07")], none,
      some .kill, some ⟨3, 50⟩⟩,
    ⟨"web", "true", .empty, some "/srv", none, none⟩]

/-- Variables, a control character and a repeated name come back as they were. -/
theorem configurations_survive_saving_sites : ∃ saved, twoSites.SavedAs saved ∧
    (parse (.ofList [("HOME", "/home")]) saved).map Loaded.config = .ok twoSites := by
  have hsorted : twoSites.Sorted :=
    List.forall_mem_cons.mpr ⟨Environment.sorted_ofList _, List.forall_mem_singleton.mpr .nil⟩
  obtain ⟨_, ⟨saved, hsaved⟩, hparse⟩ := configurations_survive_saving.1 twoSites .empty
    ⟨twoSites, repeatedNames [] ["web", "web"]⟩ hsorted rfl
  refine ⟨saved, hsaved, ?_⟩
  rw [hparse saved hsaved]
  rfl

end Supervision.Config
