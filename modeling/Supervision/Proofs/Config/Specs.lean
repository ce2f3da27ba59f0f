import Supervision.Config.Loading
import Supervision.Proofs.Config.Descriptions
import Supervision.Proofs.Json.Yields
import Mathlib.Data.List.Forall2

/-!
# A configuration loads everywhere or nowhere

Whether an entry can be described depends on its name and its command alone.  The environment only
lends values to its variables, so a document is accepted in every environment or in none, and what
was accepted once can be described again wherever the program runs later.
-/

namespace Supervision

/-- Two descriptions with the same variables, that differ in nothing but their values. -/
structure ProcessSpec.AgreeButValues (spec other : ProcessSpec) : Prop where
  names : spec.command.environment.entries.map Prod.fst =
    other.command.environment.entries.map Prod.fst
  others : { spec with
    command := { spec.command with environment := other.command.environment } } = other

namespace Config

/-- What is wrong with an entry that cannot be described.  The name is looked at first. -/
inductive ProcessEntry.Faulty (entry : ProcessEntry) : Failure → Prop
  | blank (blank : Text.isAllBlank entry.name = true) :
      entry.Faulty (.invalidProcessName entry.name)
  | unclosed (named : Text.isAllBlank entry.name = false)
      (words : Command.split entry.command = none) :
      entry.Faulty (.invalidCommand entry.name "missing closing quote")
  | empty (named : Text.isAllBlank entry.name = false)
      (words : Command.split entry.command = some []) :
      entry.Faulty (.invalidCommand entry.name "empty command")

/-- The description that an entry stands for in an environment. -/
structure ProcessEntry.Describes (entry : ProcessEntry) (env : Environment) (spec : ProcessSpec) :
    Prop where
  name : spec.name = entry.name
  words : Command.split entry.command = some (spec.command.program :: spec.command.arguments)
  directory : spec.command.directory = entry.directory
  stopSignal : spec.stopSignal = entry.stopSignal.getD .interrupt
  never : entry.restart = none → spec.restart = .never
  restart : ∀ restart ∈ entry.restart,
    spec.restart = .ofLimit restart.limit (.ofMillis restart.delayMillis.toNat)
  /-- The variables are those of the entry, and each has what its value expands to. -/
  environment : spec.command.environment.entries =
    entry.environment.entries.map fun assigned ↦
      (assigned.1, Expansion.expand env.lookup assigned.2)

/-- The variables of every process are kept as a map is. -/
def Launcher.Sorted (config : Launcher) : Prop :=
  ∀ entry ∈ config.processes, entry.environment.Sorted

/-! ## One entry -/

section

variable {entry : ProcessEntry} {env other : Environment} {spec otherSpec : ProcessSpec}

/-- What the options of an entry make of a description. -/
theorem foldl_options (entry : ProcessEntry) (env : Environment) (spec : ProcessSpec) :
    (entry.options env).foldl ProcessSpec.apply spec =
      { name := spec.name
        command :=
          { spec.command with
            environment := spec.command.environment.extend
              (entry.environment.mapValues (Expansion.expand env.lookup)).entries
            directory := entry.directory.or spec.command.directory }
        stopSignal := entry.stopSignal.getD spec.stopSignal
        restart := (entry.restart.map fun restart ↦
          .ofLimit restart.limit (.ofMillis restart.delayMillis.toNat)).getD spec.restart } := by
  obtain ⟨name, command, environment, directory, stopSignal, restart⟩ := entry
  simp only [ProcessEntry.options, List.foldl_append]
  generalize (environment.mapValues (Expansion.expand env.lookup)).entries = pairs
  have hpairs : (if pairs.isEmpty then [] else [.environment pairs]).foldl ProcessSpec.apply spec =
      { spec with command := spec.command.extendEnvironment pairs } := by
    cases pairs <;> rfl
  rw [hpairs]
  cases stopSignal <;> cases directory <;> cases restart <;> rfl

theorem ProcessEntry.faulty_iff {failure : Failure} :
    entry.Faulty failure ↔ ProcessSpec.Rejected entry.name entry.command failure := by
  constructor
  · rintro (blank | ⟨named, words⟩ | ⟨named, words⟩)
    · exact .blank blank
    · exact .unclosed named words
    · exact .empty named words
  · rintro (blank | ⟨named, words⟩ | ⟨named, words⟩)
    · exact .blank blank
    · exact .unclosed named words
    · exact .empty named words

theorem ProcessEntry.toSpec_eq (entry : ProcessEntry) (env : Environment) :
    entry.toSpec env = (ProcessSpec.ofCommand entry.name entry.command).map fun spec ↦
      (entry.options env).foldl ProcessSpec.apply spec := rfl

/-- The environment has no part in what is wrong with an entry. -/
theorem ProcessEntry.toSpec_eq_error_iff {failure : Failure} :
    entry.toSpec env = .error failure ↔ entry.Faulty failure :=
  ProcessSpec.build_eq_error_iff.trans ProcessEntry.faulty_iff.symm

/-- An entry that is described at all is described as it says. -/
theorem ProcessEntry.describes_of_toSpec (sorted : entry.environment.Sorted)
    (h : entry.toSpec env = .ok spec) : entry.Describes env spec := by
  rw [ProcessEntry.toSpec_eq] at h
  rcases ProcessSpec.ofCommand_cases entry.name entry.command with
    ⟨program, arguments, _, hwords, hspec⟩ | ⟨_, _, hspec⟩
  · rw [hspec] at h
    have hvalues := (sorted.mapValues (Expansion.expand env.lookup)).ofList_eq (.refl _)
    obtain rfl := Except.ok.inj h
    simp only [foldl_options]
    refine ⟨rfl, hwords, by simp, rfl, fun hnone ↦ by simp [hnone], fun restart hsome ↦ ?_, ?_⟩
    · simp [Option.mem_def.mp hsome]
    · exact congrArg Environment.entries hvalues
  · rw [hspec] at h
    cases h

/-- Two environments describe an entry alike but for values of variables. -/
theorem ProcessEntry.Describes.agree (describes : entry.Describes env spec)
    (describesOther : entry.Describes other otherSpec) : spec.AgreeButValues otherSpec := by
  have hrestart : spec.restart = otherSpec.restart := by
    cases h : entry.restart with
    | none => rw [describes.never h, describesOther.never h]
    | some restart => rw [describes.restart restart h, describesOther.restart restart h]
  have hwords := describes.words.symm.trans describesOther.words
  obtain ⟨hprogram, harguments⟩ := List.cons.inj (Option.some.inj hwords)
  constructor
  · rw [describes.environment, describesOther.environment, List.map_map, List.map_map]
    rfl
  · have hname := describes.name.trans describesOther.name.symm
    have hdirectory := describes.directory.trans describesOther.directory.symm
    have hsignal := describes.stopSignal.trans describesOther.stopSignal.symm
    obtain ⟨name, ⟨program, arguments, environment, directory⟩, signal, policy⟩ := spec
    obtain ⟨otherName, ⟨_, _, _, _⟩, _, _⟩ := otherSpec
    simp_all

end

/-! ## All entries -/

/-- What is wrong with the first entry that is faulty. -/
inductive FirstFault : List ProcessEntry → Failure → Prop
  | here {entry : ProcessEntry} {failure : Failure} (faulty : entry.Faulty failure)
      (later : List ProcessEntry) : FirstFault (entry :: later) failure
  | later {entry : ProcessEntry} {later : List ProcessEntry} {failure : Failure}
      (sound : ∀ failure, ¬ entry.Faulty failure) (first : FirstFault later failure) :
      FirstFault (entry :: later) failure

section

variable {entries : List ProcessEntry} {env : Environment} {specs : List ProcessSpec}
  {failure : Failure}

theorem mapM_toSpec_eq_ok_iff : entries.mapM (·.toSpec env) = .ok specs ↔
    List.Forall₂ (fun entry spec ↦ entry.toSpec env = .ok spec) entries specs := by
  induction entries generalizing specs with
  | nil =>
    rw [List.mapM_nil, List.forall₂_nil_left_iff]
    exact ⟨fun h ↦ (Except.ok.inj h).symm, fun h ↦ congrArg _ h.symm⟩
  | cons entry entries ih =>
    rw [List.mapM_cons]
    constructor
    · intro h
      cases hspec : entry.toSpec env with
      | error failure => simp [bind, Except.bind, hspec] at h
      | ok spec =>
        cases hspecs : entries.mapM (·.toSpec env) with
        | error failure => simp [bind, Except.bind, hspec, hspecs] at h
        | ok others =>
          simp only [bind, Except.bind, hspec, hspecs] at h
          cases h
          exact .cons hspec (ih.mp hspecs)
    · intro h
      cases h with
      | cons hspec hall =>
        rw [hspec, ih.mpr hall]
        rfl

/-- The first faulty entry decides what is wrong with all of them. -/
theorem mapM_toSpec_eq_error_iff :
    entries.mapM (·.toSpec env) = .error failure ↔ FirstFault entries failure := by
  induction entries with
  | nil => exact ⟨nofun, nofun⟩
  | cons entry entries ih =>
    rw [List.mapM_cons]
    cases hspec : entry.toSpec env with
    | error fault =>
      have faulty := ProcessEntry.toSpec_eq_error_iff.mp hspec
      constructor
      · intro h
        cases h
        exact .here faulty entries
      · intro first
        cases first with
        | here hfaulty =>
          cases hspec.symm.trans (ProcessEntry.toSpec_eq_error_iff.mpr hfaulty)
          rfl
        | later sound first => exact absurd faulty (sound fault)
    | ok spec =>
      have hsound (failure : Failure) : ¬ entry.Faulty failure := fun faulty ↦
        nomatch hspec.symm.trans (ProcessEntry.toSpec_eq_error_iff.mpr faulty)
      have hrest : (Except.ok spec >>= fun spec ↦ entries.mapM (·.toSpec env) >>= fun specs ↦
          pure (spec :: specs)) = .error failure ↔ entries.mapM (·.toSpec env) = .error failure := by
        cases entries.mapM (·.toSpec env) <;> simp [bind, Except.bind, pure, Except.pure]
      rw [hrest, ih]
      constructor
      · exact .later hsound
      · intro first
        cases first with
        | here faulty => exact absurd faulty (hsound failure)
        | later sound first => exact first

end

section

variable {config : Launcher} {env other : Environment} {specs others : List ProcessSpec}

/-- A configuration that can be described somewhere can be described everywhere. -/
theorem Launcher.exists_specs (h : config.specs env = .ok specs) (other : Environment) :
    ∃ others, config.specs other = .ok others := by
  cases hother : config.specs other with
  | ok others => exact ⟨others, rfl⟩
  | error failure =>
    have hfault : config.specs env = .error failure :=
      mapM_toSpec_eq_error_iff.mpr (mapM_toSpec_eq_error_iff.mp hother)
    cases h.symm.trans hfault

theorem Launcher.describes (sorted : config.Sorted) (h : config.specs env = .ok specs) :
    List.Forall₂ (fun entry spec ↦ entry.Describes env spec) config.processes specs := by
  have hall := mapM_toSpec_eq_ok_iff.mp h
  have hboth := (List.forall₂_and_left config.processes specs).mpr ⟨sorted, hall⟩
  exact hboth.imp fun _ _ ⟨hsorted, hspec⟩ ↦ ProcessEntry.describes_of_toSpec hsorted hspec

/-- The descriptions of one configuration in two environments. -/
theorem Launcher.agree (sorted : config.Sorted) (h : config.specs env = .ok specs)
    (hother : config.specs other = .ok others) :
    List.Forall₂ ProcessSpec.AgreeButValues specs others := by
  have hspecs := Launcher.describes sorted h
  have hothers := Launcher.describes sorted hother
  clear h hother
  generalize config.processes = entries at hspecs hothers
  induction hspecs generalizing others with
  | nil =>
    cases hothers
    exact .nil
  | cons describes _ ih =>
    cases hothers with
    | cons describesOther rest => exact .cons (describes.agree describesOther) (ih rest)

theorem check_eq_ok_iff {loaded : Loaded} :
    check config env = .ok loaded ↔ config.processes ≠ [] ∧
      (∃ specs, config.specs env = .ok specs) ∧
        loaded = ⟨config, repeatedNames [] (config.processes.map (·.name))⟩ := by
  cases hprocesses : config.processes with
  | nil => simp [check, hprocesses, bind, Except.bind]
  | cons entry entries =>
    cases hspecs : config.specs env with
    | error failure => simp [check, hprocesses, hspecs, bind, Except.bind]
    | ok specs => simp [check, hprocesses, hspecs, bind, Except.bind, eq_comm]

/-- A configuration that has processes is refused only for its first faulty entry. -/
theorem check_eq_error_iff {failure : Failure} (present : config.processes ≠ []) :
    check config env = .error failure ↔ FirstFault config.processes failure := by
  have hfault : config.specs env = .error failure ↔ FirstFault config.processes failure :=
    mapM_toSpec_eq_error_iff
  rw [← hfault]
  have hpresent : config.processes.isEmpty = false := by simpa using present
  cases hspecs : config.specs env <;>
    simp [check, hpresent, hspecs, bind, Except.bind]

/-- A configuration is judged alike in every environment. -/
theorem check_eq (config : Launcher) (env other : Environment) :
    check config env = check config other := by
  by_cases hprocesses : config.processes = []
  · simp [check, hprocesses, bind, Except.bind]
  cases h : check config env with
  | ok loaded =>
    obtain ⟨present, ⟨specs, hspecs⟩, hloaded⟩ := check_eq_ok_iff.mp h
    exact (check_eq_ok_iff.mpr ⟨present, Launcher.exists_specs hspecs other, hloaded⟩).symm
  | error failure =>
    have hfault := (check_eq_error_iff hprocesses).mp h
    exact ((check_eq_error_iff hprocesses).mpr hfault).symm

end

/-! ## Documents -/

/-- Whatever a document says, the variables of its processes are kept as maps. -/
theorem yields_environment : readEnvironment.Yields Environment.Sorted :=
  .map fun _ pairs _ _ ↦ Environment.sorted_ofList pairs

theorem yields_process : readProcess.Yields fun entry ↦ entry.environment.Sorted := by
  let kept (draft : ProcessDraft) : Prop := ∀ environment ∈ draft.environment, environment.Sorted
  refine .bind (show Json.Reader.Yields _ kept from .record ?_ nofun) fun draft hdraft ↦ .pure ?_
  · simp only [List.forall_mem_cons]
    refine ⟨.required (.anything _) fun _ _ _ h ↦ h, .required (.anything _) fun _ _ _ h ↦ h,
      .orElse yields_environment Environment.sorted_empty ?_,
      .orElse (.anything _) trivial fun _ _ _ h ↦ h, .orElse (.anything _) trivial fun _ _ _ h ↦ h,
      .orElse (.anything _) trivial fun _ _ _ h ↦ h, nofun⟩
    intro environment draft hsorted _ other hother
    obtain rfl := Option.some.inj hother
    exact hsorted
  · cases henvironment : draft.environment with
    | none => simpa [henvironment] using Environment.sorted_empty
    | some environment => simpa [henvironment] using hdraft environment henvironment

/-- However a configuration is written, its variables are in order once it is read. -/
theorem yields_launcher : readLauncher.Yields Launcher.Sorted := by
  let kept (draft : LauncherDraft) : Prop :=
    ∀ processes ∈ draft.processes, ∀ entry ∈ processes, entry.environment.Sorted
  refine .bind (show Json.Reader.Yields _ kept from .record ?_ nofun) fun draft hdraft ↦ .pure ?_
  · simp only [List.forall_mem_cons]
    refine ⟨.orElse (.anything _) trivial fun _ _ _ h ↦ h,
      .orElse (.anything _) trivial fun _ _ _ h ↦ h, .orElse (.anything _) trivial fun _ _ _ h ↦ h,
      .orElse (.anything _) trivial fun _ _ _ h ↦ h, .orElse (.list yields_process) nofun ?_, nofun⟩
    intro processes draft hsorted _ other hother
    obtain rfl := Option.some.inj hother
    exact hsorted
  · cases hprocesses : draft.processes with
    | none => simp [Launcher.Sorted]
    | some processes => simpa [Launcher.Sorted, hprocesses] using hdraft processes hprocesses

/-- A document that is accepted says a configuration that can be described. -/
theorem parse_eq_ok_iff {env : Environment} {document : String} {loaded : Loaded} :
    parse env document = .ok loaded ↔
      readLauncher.read (Text.Utf8.encode document) = .ok loaded.config ∧
        check loaded.config env = .ok loaded := by
  unfold parse
  split
  · next hread => simp [hread]
  · next config hread =>
    rw [hread]
    constructor
    · intro h
      obtain ⟨_, _, rfl⟩ := check_eq_ok_iff.mp h
      exact ⟨rfl, h⟩
    · rintro ⟨hconfig, h⟩
      rwa [Except.ok.inj hconfig]

/-- The answer to a document is the same in every environment.  A configuration that was accepted in
one can be described in any other, every process as its entry says and with the values that its
variables have there.  One that was not accepted, though it has processes, fails for its first entry
that is faulty. -/
theorem loads_everywhere_or_nowhere (document : String) (env other : Environment) :
    parse env document = parse other document ∧
    (∀ loaded, parse env document = .ok loaded →
      ∃ specs others, loaded.config.specs env = .ok specs ∧ loaded.config.specs other = .ok others ∧
        List.Forall₂ (fun entry spec ↦ entry.Describes other spec) loaded.config.processes others ∧
          List.Forall₂ ProcessSpec.AgreeButValues specs others) ∧
    ∀ config failure, readLauncher.read (Text.Utf8.encode document) = .ok config →
      config.processes ≠ [] → parse env document = .error failure →
        FirstFault config.processes failure := by
  refine ⟨?_, fun loaded h ↦ ?_, fun config failure hread present h ↦ ?_⟩
  · unfold parse
    split
    · rfl
    · exact check_eq _ env other
  · obtain ⟨hread, hcheck⟩ := parse_eq_ok_iff.mp h
    obtain ⟨_, ⟨specs, hspecs⟩, _⟩ := check_eq_ok_iff.mp hcheck
    obtain ⟨others, hothers⟩ := Launcher.exists_specs hspecs other
    have hsorted : loaded.config.Sorted := yields_launcher.of_read hread
    exact ⟨specs, others, hspecs, hothers, Launcher.describes hsorted hothers,
      Launcher.agree hsorted hspecs hothers⟩
  · rw [parse, hread] at h
    exact (check_eq_error_iff present).mp h

end Config

end Supervision
