import Supervision.ProcessSpec
import Supervision.Proofs.Config.Environments

/-!
# Descriptions of processes

Whether a process can be described is up to its name and its command.  Options are applied one after
another, but what they come to depends on the options of each kind alone: the variables add up,
where the last value for a name stays, and of the other kinds the last option counts.  Options of
different kinds can therefore change places.
-/

namespace Supervision

namespace ProcessOption

/-- The variables that an option sets, if it is there for that. -/
def environment? : ProcessOption → Option (List (String × String))
  | .environment pairs => some pairs
  | _ => none

def stopSignal? : ProcessOption → Option Signal
  | .stopSignal signal => some signal
  | _ => none

def directory? : ProcessOption → Option String
  | .directory path => some path
  | _ => none

def restart? : ProcessOption → Option RestartPolicy
  | .restart policy => some policy
  | _ => none

/-- Does an option set a variable? -/
def Sets (name : String) (option : ProcessOption) : Prop :=
  ∃ pairs ∈ option.environment?, ∃ pair ∈ pairs, pair.1 = name

/-- The value that was set last for a variable: the last pair for it in the last option with one. -/
inductive SetLast (name value : String) : List ProcessOption → Prop
  | last (before after : List ProcessOption) (earlier later : List (String × String))
      (notLater : ∀ pair ∈ later, pair.1 ≠ name) (notAfter : ∀ option ∈ after, ¬option.Sets name) :
      SetLast name value (before ++ .environment (earlier ++ (name, value) :: later) :: after)

/-- All pairs of all options that set variables, in order. -/
def assigned (options : List ProcessOption) : List (String × String) :=
  (options.filterMap environment?).flatten

/-- The option with its variables put together as a map first. -/
def collected : ProcessOption → ProcessOption
  | .environment pairs => .environment (Environment.ofList pairs).entries
  | option => option

/-- The options of every kind are the same and in the same order. -/
structure AgreeByKind (options others : List ProcessOption) : Prop where
  environment : others.filterMap environment? = options.filterMap environment?
  stopSignal : others.filterMap stopSignal? = options.filterMap stopSignal?
  directory : others.filterMap directory? = options.filterMap directory?
  restart : others.filterMap restart? = options.filterMap restart?

/-! ## Variables -/

section

variable {options : List ProcessOption} {name value : String}

/-- Either no item is of the kind, or one of them is the last that is. -/
theorem exists_last {α : Type} (p : α → Prop) (items : List α) :
    (∀ item ∈ items, ¬p item) ∨
      ∃ before item after,
        items = before ++ item :: after ∧ p item ∧ ∀ other ∈ after, ¬p other := by
  induction items with
  | nil => exact .inl nofun
  | cons first items ih =>
    rcases ih with hnone | ⟨before, item, after, rfl, hitem, hafter⟩
    · by_cases hfirst : p first
      · exact .inr ⟨[], first, items, rfl, hfirst, hnone⟩
      · exact .inl (List.forall_mem_cons.mpr ⟨hfirst, hnone⟩)
    · exact .inr ⟨first :: before, item, after, rfl, hitem, hafter⟩

/-- A variable is never set, or some value is the last. -/
theorem exists_setLast (name : String) (options : List ProcessOption) :
    (∀ option ∈ options, ¬option.Sets name) ∨ ∃ value, SetLast name value options := by
  rcases exists_last (Sets name) options with hnone | ⟨before, option, after, rfl, hsets, hafter⟩
  · exact .inl hnone
  cases option with
  | environment pairs =>
    obtain ⟨_, hpairs, pair, hmem, hname⟩ := hsets
    obtain rfl := Option.some.inj hpairs
    rcases exists_last (fun pair : String × String ↦ pair.1 = name) pairs with
      hnone | ⟨earlier, ⟨_, value⟩, later, rfl, rfl, hlater⟩
    · exact absurd hname (hnone pair hmem)
    · exact .inr ⟨value, .last before after earlier later hlater hafter⟩
  | stopSignal signal | directory path | restart policy => simp [Sets, environment?] at hsets

theorem ne_of_mem_assigned (h : ∀ option ∈ options, ¬option.Sets name) :
    ∀ pair ∈ assigned options, pair.1 ≠ name := by
  intro pair hpair hname
  obtain ⟨pairs, hpairs, hmem⟩ := List.mem_flatten.mp hpair
  obtain ⟨option, hoption, henvironment⟩ := List.mem_filterMap.mp hpairs
  exact h option hoption ⟨pairs, henvironment, pair, hmem, hname⟩

/-- Later pairs for a variable take the place of earlier ones. -/
theorem SetLast.find?_eq (h : SetLast name value options) (env : Environment) :
    (env.extend (assigned options)).find? name = some value := by
  obtain ⟨before, after, earlier, later, notLater, notAfter⟩ := h
  have hassigned : assigned (before ++ .environment (earlier ++ (name, value) :: later) :: after) =
      assigned before ++ earlier ++ (name, value) :: (later ++ assigned after) := by
    simp [assigned, environment?]
  rw [hassigned]
  exact Environment.find?_extend_last (List.forall_mem_append.mpr
    ⟨notLater, ne_of_mem_assigned notAfter⟩)

theorem find?_assigned_eq_none_iff :
    (Environment.ofList (assigned options)).find? name = none ↔
      ∀ option ∈ options, ¬option.Sets name := by
  constructor
  · intro h
    rcases exists_setLast name options with hnone | ⟨value, hlast⟩
    · exact hnone
    · cases h.symm.trans (hlast.find?_eq .empty)
  · intro h
    exact Environment.find?_extend_of_not_mem (ne_of_mem_assigned h)

/-- A variable has the value that was set last for it. -/
theorem find?_assigned_eq_some_iff :
    (Environment.ofList (assigned options)).find? name = some value ↔
      SetLast name value options := by
  constructor
  · intro h
    rcases exists_setLast name options with hnone | ⟨other, hlast⟩
    · cases h.symm.trans (find?_assigned_eq_none_iff.mpr hnone)
    · obtain rfl := Option.some.inj (h.symm.trans (hlast.find?_eq .empty))
      exact hlast
  · intro h
    exact h.find?_eq .empty

end

end ProcessOption

namespace ProcessSpec

open ProcessOption

/-! ## Names and commands -/

/-- What is wrong with a name and a command that cannot be described.  The name is looked at
first. -/
inductive Rejected (name command : String) : Failure → Prop
  | blank (blank : Text.isAllBlank name = true) : Rejected name command (.invalidProcessName name)
  | unclosed (named : Text.isAllBlank name = false) (words : Command.split command = none) :
      Rejected name command (.invalidCommand name "missing closing quote")
  | empty (named : Text.isAllBlank name = false) (words : Command.split command = some []) :
      Rejected name command (.invalidCommand name "empty command")

section

variable {name command : String} {plain : ProcessSpec} {failure : Failure}

/-- A name and a command can be described, or something is wrong with them. -/
theorem ofCommand_cases (name command : String) :
    (∃ program arguments, Text.isAllBlank name = false ∧
      Command.split command = some (program :: arguments) ∧
        ofCommand name command =
          .ok ⟨name, ⟨program, arguments, .empty, none⟩, .interrupt, .never⟩) ∨
    ∃ failure, Rejected name command failure ∧ ofCommand name command = .error failure := by
  unfold ofCommand CommandLine.parse
  cases hblank : Text.isAllBlank name with
  | true => exact .inr ⟨_, .blank hblank, rfl⟩
  | false =>
    cases hwords : Command.split command with
    | none => exact .inr ⟨_, .unclosed hblank hwords, rfl⟩
    | some words =>
      cases words with
      | nil => exact .inr ⟨_, .empty hblank hwords, rfl⟩
      | cons program arguments => exact .inl ⟨program, arguments, rfl, rfl, rfl⟩

/-- A description without options has nothing but its name and its words. -/
theorem eq_of_ofCommand (accepted : ofCommand name command = .ok plain) :
    plain = ⟨name, ⟨plain.command.program, plain.command.arguments, .empty, none⟩, .interrupt,
      .never⟩ := by
  rcases ofCommand_cases name command with ⟨program, arguments, _, _, hspec⟩ | ⟨_, _, hspec⟩
  · obtain rfl := Except.ok.inj (accepted.symm.trans hspec)
    rfl
  · cases accepted.symm.trans hspec

theorem Rejected.ofCommand_eq (rejected : Rejected name command failure) :
    ofCommand name command = .error failure := by
  unfold ofCommand CommandLine.parse
  cases rejected with
  | blank blank => rw [if_pos blank]
  | unclosed named words | empty named words =>
    rw [if_neg (Bool.eq_false_iff.mp named), words]
    rfl

/-- No option can make a description fail. -/
theorem build_eq_error_iff {options : List ProcessOption} :
    build name command options = .error failure ↔ Rejected name command failure := by
  constructor
  · intro h
    rw [build] at h
    rcases ofCommand_cases name command with ⟨_, _, _, _, hspec⟩ | ⟨_, rejected, hspec⟩
    · rw [hspec] at h
      cases h
    · rw [hspec] at h
      cases h
      exact rejected
  · intro rejected
    rw [build, rejected.ofCommand_eq]
    rfl

end

/-! ## All kinds -/

/-- What options make of a description that has none yet. -/
structure Folded (plain : ProcessSpec) (options : List ProcessOption) (built : ProcessSpec) :
    Prop where
  name : built.name = plain.name
  program : built.command.program = plain.command.program
  arguments : built.command.arguments = plain.command.arguments
  /-- A variable has the value that was set last, and there are no others. -/
  value_iff : ∀ name value,
    built.command.environment.find? name = some value ↔ SetLast name value options
  absent_iff : ∀ name,
    built.command.environment.find? name = none ↔ ∀ option ∈ options, ¬option.Sets name
  /-- Of the other kinds the last option counts, and without one it is as it was. -/
  stopSignal : built.stopSignal = (options.filterMap stopSignal?).getLast?.getD .interrupt
  directory : built.command.directory = (options.filterMap directory?).getLast?
  restart : built.restart = (options.filterMap restart?).getLast?.getD .never

/-- What options come to, kind by kind. -/
theorem foldl_apply (spec : ProcessSpec) (options : List ProcessOption) :
    options.foldl apply spec =
      { name := spec.name
        command :=
          { spec.command with
            environment := spec.command.environment.extend (assigned options)
            directory := (options.filterMap directory?).getLast?.or spec.command.directory }
        stopSignal := (options.filterMap stopSignal?).getLast?.getD spec.stopSignal
        restart := (options.filterMap restart?).getLast?.getD spec.restart } := by
  induction options generalizing spec with
  | nil => rfl
  | cons option options ih =>
    rw [List.foldl_cons, ih]
    cases option <;>
      simp [apply, assigned, environment?, stopSignal?, directory?, restart?, List.filterMap_cons,
        List.getLast?_cons, CommandLine.extendEnvironment, Environment.extend]

/-- It does not matter in which order options of different kinds stand. -/
theorem foldl_apply_eq_of_agree {options others : List ProcessOption}
    (agree : AgreeByKind options others) (spec : ProcessSpec) :
    others.foldl apply spec = options.foldl apply spec := by
  rw [foldl_apply, foldl_apply, assigned, assigned, agree.environment, agree.stopSignal,
    agree.directory, agree.restart]

theorem sorted_apply {spec : ProcessSpec} (sorted : spec.command.environment.Sorted)
    (option : ProcessOption) : (apply spec option).command.environment.Sorted := by
  cases option with
  | environment pairs => exact sorted.extend pairs
  | stopSignal signal | directory path | restart policy => exact sorted

/-- Pairs one by one come to the same as a map of them. -/
theorem apply_collected {spec : ProcessSpec} (sorted : spec.command.environment.Sorted)
    (option : ProcessOption) : apply spec option.collected = apply spec option := by
  cases option with
  | environment pairs =>
    simp only [collected, apply, CommandLine.extendEnvironment, sorted.extend_ofList]
  | stopSignal signal | directory path | restart policy => rfl

theorem foldl_apply_collected {spec : ProcessSpec} (sorted : spec.command.environment.Sorted)
    (options : List ProcessOption) :
    (options.map collected).foldl apply spec = options.foldl apply spec := by
  induction options generalizing spec with
  | nil => rfl
  | cons option options ih =>
    rw [List.map_cons, List.foldl_cons, List.foldl_cons, apply_collected sorted]
    exact ih (sorted_apply sorted option)

/-- Each part of a description comes from the options of its kind, or else is its default. -/
theorem folded_of_ofCommand {name command : String} {plain : ProcessSpec}
    (accepted : ofCommand name command = .ok plain) (options : List ProcessOption) :
    Folded plain options (options.foldl apply plain) := by
  have hplain := eq_of_ofCommand accepted
  rw [foldl_apply, hplain]
  exact ⟨rfl, rfl, rfl, fun _ _ ↦ find?_assigned_eq_some_iff, fun _ ↦ find?_assigned_eq_none_iff,
    rfl, Option.or_none, rfl⟩

/-- A name and a command that are accepted can be described with any options.  The description is
what applying them one by one comes to, kind by kind, so it is the same for all options that agree
on each kind, however the kinds are mixed, and if the variables of each are put together first. -/
theorem options_fold_by_kind {name command : String} {plain : ProcessSpec}
    (accepted : ofCommand name command = .ok plain) (options : List ProcessOption) :
    ∃ built, build name command options = .ok built ∧ built = options.foldl apply plain ∧
      Folded plain options built ∧
      (∀ others, AgreeByKind options others → build name command others = .ok built) ∧
      build name command (options.map collected) = .ok built := by
  have hbuild (options : List ProcessOption) :
      build name command options = .ok (options.foldl apply plain) := by
    rw [build, accepted]
    rfl
  have hsorted : plain.command.environment.Sorted := by
    rw [eq_of_ofCommand accepted]
    exact Environment.sorted_empty
  refine ⟨_, hbuild options, rfl, folded_of_ofCommand accepted options, fun others agree ↦ ?_, ?_⟩
  · rw [hbuild, foldl_apply_eq_of_agree agree]
  · rw [hbuild, foldl_apply_collected hsorted]

/-- Options of all kinds, mixed: of two values for a variable and of two signals the later stays. -/
theorem options_fold_by_kind_mixed :
    ∃ built,
      build "svc" "run -x" [.environment [("A", "1"), ("B", "2"), ("A", "3")], .stopSignal .quit,
        .directory "/a", .environment [("C", "4")], .stopSignal .terminate] = .ok built ∧
      build "svc" "run -x" [.stopSignal .quit, .stopSignal .terminate, .directory "/a",
        .environment [("A", "1"), ("B", "2"), ("A", "3")], .environment [("C", "4")]] = .ok built ∧
      built.command.environment.find? "A" = some "3" ∧ built.command.program = "run" ∧
      built.stopSignal = .terminate ∧ built.restart = .never := by
  have accepted : ofCommand "svc" "run -x" =
      .ok ⟨"svc", ⟨"run", ["-x"], .empty, none⟩, .interrupt, .never⟩ := rfl
  obtain ⟨built, hbuilt, _, folded, agrees, _⟩ := options_fold_by_kind accepted
    [.environment [("A", "1"), ("B", "2"), ("A", "3")], .stopSignal .quit, .directory "/a",
      .environment [("C", "4")], .stopSignal .terminate]
  refine ⟨built, hbuilt, agrees _ ⟨rfl, rfl, rfl, rfl⟩, ?_, folded.program, folded.stopSignal,
    folded.restart⟩
  exact (folded.value_iff "A" "3").mpr (.last [] _ [("A", "1"), ("B", "2")] [] nofun
    (by simp [Sets, environment?]))

end ProcessSpec

end Supervision
