import Supervision.Proofs.Assembly
import Supervision.Proofs.Config.Descriptions

/-!
# Registration

Processes are registered with a name and a command, which may be rejected, or with a description
made beforehand.  A rejected registration leaves the supervisor as it was, so what a supervisor
holds after any number of them is what the accepted ones alone come to: their processes in order,
each with the next colour, and a name column as wide as the longest of their names.
-/

namespace Supervision

/-- A process to be registered, described on the way or beforehand. -/
inductive Registration
  | process (name command : String) (options : List ProcessOption)
  | described (spec : ProcessSpec)
  deriving DecidableEq, Repr

namespace Registration

def name : Registration → String
  | process name _ _ => name
  | described spec => spec.name

/-- The description that is registered, unless the name or the command is rejected. -/
def spec? : Registration → Option ProcessSpec
  | process name command options => (ProcessSpec.build name command options).toOption
  | described spec => some spec

def accepted (registration : Registration) : Bool := registration.spec?.isSome

/-- A process is registered under the name that was given for it. -/
theorem name_of_spec? {registration : Registration} {spec : ProcessSpec}
    (h : registration.spec? = some spec) : spec.name = registration.name := by
  cases registration with
  | process name command options =>
    rw [spec?, ProcessSpec.build] at h
    rcases ProcessSpec.ofCommand_cases name command with ⟨_, _, _, _, hspec⟩ | ⟨_, _, hspec⟩
    · rw [hspec] at h
      obtain rfl := Option.some.inj h
      exact congrArg ProcessSpec.name (ProcessSpec.foldl_apply _ options)
    · rw [hspec] at h
      cases h
  | described given =>
    obtain rfl := Option.some.inj h
    rfl

/-- The names of the processes described are those of the registrations that are accepted. -/
theorem map_name_filterMap_spec? (registrations : List Registration) :
    (registrations.filterMap spec?).map ProcessSpec.name =
      (registrations.filter accepted).map name := by
  induction registrations with
  | nil => rfl
  | cons registration registrations ih =>
    cases h : registration.spec? with
    | none =>
      have hrejected : ¬registration.accepted = true := by simp [accepted, h]
      rw [List.filterMap_cons_none h, List.filter_cons_of_neg hrejected, ih]
    | some spec =>
      have haccepted : registration.accepted = true := by simp [accepted, h]
      rw [List.filterMap_cons_some h, List.filter_cons_of_pos haccepted, List.map_cons,
        List.map_cons, ih, name_of_spec? h]

end Registration

/-- Ten colours take turns. -/
theorem Output.getElem?_palette (index : Nat) :
    palette[index % 10]? = some (paletteColor index) := by
  have hindex : index % 10 < palette.length := Nat.mod_lt index (by decide)
  rw [paletteColor, List.getD_eq_getElem?_getD, show palette.length = 10 from rfl,
    List.getElem?_eq_getElem hindex]
  rfl

namespace Supervisor

def register (supervisor : Supervisor) : Registration → Except Failure Unit × Supervisor
  | .process name command options => supervisor.addProcess name command options
  | .described spec => (.ok (), supervisor.addSpec spec)

/-- What a supervisor is after several registrations, whether or not they are accepted. -/
def registerAll (supervisor : Supervisor) (registrations : List Registration) : Supervisor :=
  registrations.foldl (fun supervisor registration ↦ (supervisor.register registration).2)
    supervisor

/-- A supervisor that was new before these registrations has the processes of those accepted and
no others. -/
structure Holds (supervisor : Supervisor) (kind : Output.ChannelKind)
    (registrations : List Registration) : Prop where
  processes : supervisor.processes =
    (registrations.filterMap Registration.spec?).mapIdx fun index spec ↦
      .ofSpec spec (Output.paletteColor index) kind
  names : supervisor.processes.map Managed.name =
    (registrations.filter Registration.accepted).map Registration.name
  /-- Their colours are those of the palette, over and over, and so is the next. -/
  color : ∀ index managed, supervisor.processes[index]? = some managed →
    Output.palette[index % 10]? = some managed.color
  nextColor : Output.palette[supervisor.processes.length % 10]? = some supervisor.nextColor
  /-- The name column is as wide as the longest of the names that were accepted. -/
  width : supervisor.output.width =
    ((registrations.filter Registration.accepted).map fun registration ↦
      registration.name.utf8ByteSize).max?.getD 0

/-! ## One registration -/

section

variable {supervisor : Supervisor} {name command : String} {options : List ProcessOption}
  {failure : Failure}

theorem addProcess_eq_error_iff :
    (supervisor.addProcess name command options).1 = .error failure ↔
      ProcessSpec.Rejected name command failure := by
  rw [← ProcessSpec.build_eq_error_iff, addProcess]
  cases ProcessSpec.build name command options <;> simp

/-- A registration that fails leaves the supervisor as it was. -/
theorem addProcess_of_error (h : (supervisor.addProcess name command options).1 = .error failure) :
    (supervisor.addProcess name command options).2 = supervisor := by
  rw [addProcess_eq_error_iff, ← ProcessSpec.build_eq_error_iff] at h
  rw [addProcess, h]

theorem register_eq_ok_iff {registration : Registration} :
    (supervisor.register registration).1 = .ok () ↔ registration.accepted = true := by
  cases registration with
  | process name command options =>
    rw [register, addProcess, Registration.accepted, Registration.spec?]
    cases ProcessSpec.build name command options <;> simp [Except.toOption]
  | described spec => exact iff_of_true rfl rfl

/-- A registration comes to registering its description, if there is one, and else to nothing. -/
theorem register_eq (supervisor : Supervisor) (registration : Registration) :
    (supervisor.register registration).2 =
      match registration.spec? with
      | some spec => supervisor.addSpec spec
      | none => supervisor := by
  cases registration with
  | process name command options =>
    rw [register, addProcess, Registration.spec?]
    cases ProcessSpec.build name command options <;> rfl
  | described spec => rfl

end

/-! ## Any number of registrations -/

/-- Registrations that are rejected make no difference to the others. -/
theorem registerAll_eq (supervisor : Supervisor) (registrations : List Registration) :
    supervisor.registerAll registrations =
      supervisor.addSpecs (registrations.filterMap Registration.spec?) := by
  rw [registerAll, addSpecs, List.foldl_filterMap]
  congr
  funext supervisor registration
  rw [register_eq]
  cases registration.spec? <;> rfl

/-- Processes are appended in order, and the colours go on where they were. -/
theorem processes_addSpecs (supervisor : Supervisor) (specs : List ProcessSpec) :
    (supervisor.addSpecs specs).processes =
      supervisor.processes ++ specs.mapIdx fun index spec ↦
        .ofSpec spec (Output.paletteColor (supervisor.processes.length + index))
          supervisor.kind := by
  induction specs generalizing supervisor with
  | nil => simp [addSpecs]
  | cons spec specs ih =>
    have hlength : (supervisor.addSpec spec).processes.length = supervisor.processes.length + 1 :=
      List.length_append
    have hshift (index : Nat) : supervisor.processes.length + 1 + index =
        supervisor.processes.length + (index + 1) := by omega
    calc
      (supervisor.addSpecs (spec :: specs)).processes =
          (supervisor.addSpec spec).processes ++ specs.mapIdx fun index later ↦
            Managed.ofSpec later
              (Output.paletteColor ((supervisor.addSpec spec).processes.length + index))
              (supervisor.addSpec spec).kind := ih (supervisor.addSpec spec)
      _ = supervisor.processes ++ (.ofSpec spec supervisor.nextColor supervisor.kind ::
            specs.mapIdx fun index later ↦
              Managed.ofSpec later (Output.paletteColor (supervisor.processes.length + (index + 1)))
                supervisor.kind) := by
        simp only [hlength, hshift]
        exact List.append_assoc _ _ _
      _ = supervisor.processes ++ (spec :: specs).mapIdx fun index later ↦
            Managed.ofSpec later (Output.paletteColor (supervisor.processes.length + index))
              supervisor.kind := by
        rw [List.mapIdx_cons]
        rfl

/-- The name column only widens, and no further than for the longest name. -/
theorem width_addSpecs (supervisor : Supervisor) (specs : List ProcessSpec) :
    (supervisor.addSpecs specs).output.width =
      (specs.map fun spec ↦ spec.name.utf8ByteSize).foldl max supervisor.output.width := by
  induction specs generalizing supervisor with
  | nil => rfl
  | cons spec specs ih => exact ih (supervisor.addSpec spec)

/-- Colours and the width of the column go by the accepted registrations only. -/
theorem holds_registerAll (name : String) (gracefulTimeout : Span) (kind : Output.ChannelKind)
    (colorize : Bool) (acceptance : Output.Acceptance) (registrations : List Registration) :
    Holds ((start name gracefulTimeout kind (.start colorize acceptance)).registerAll registrations)
      kind registrations := by
  rw [registerAll_eq]
  generalize hspecs : registrations.filterMap Registration.spec? = specs
  generalize hnew : start name gracefulTimeout kind (.start colorize acceptance) = supervisor
  have hprocesses : (supervisor.addSpecs specs).processes =
      specs.mapIdx fun index spec ↦ .ofSpec spec (Output.paletteColor index) kind := by
    rw [processes_addSpecs, ← hnew]
    simp [start]
  have hnames : specs.map ProcessSpec.name =
      (registrations.filter Registration.accepted).map Registration.name := by
    rw [← hspecs, Registration.map_name_filterMap_spec?]
  constructor
  · rw [hprocesses, hspecs]
  · rw [hprocesses, ← hnames]
    apply List.ext_getElem?
    intro index
    rw [List.getElem?_map, List.getElem?_mapIdx, List.getElem?_map, Option.map_map]
    rfl
  · intro index managed hmanaged
    rw [hprocesses, List.getElem?_mapIdx] at hmanaged
    obtain ⟨spec, -, rfl⟩ := Option.map_eq_some_iff.mp hmanaged
    exact Output.getElem?_palette index
  · exact Output.getElem?_palette _
  · calc
      (supervisor.addSpecs specs).output.width =
          (specs.map fun spec ↦ spec.name.utf8ByteSize).foldl max 0 := by
        rw [width_addSpecs, ← hnew]
        rfl
      _ = (specs.map fun spec ↦ spec.name.utf8ByteSize).max?.getD 0 := by
        rw [List.foldl_max, Nat.zero_max]
      _ = ((registrations.filter Registration.accepted).map fun registration ↦
            registration.name.utf8ByteSize).max?.getD 0 := by
        have hsizes := congrArg (List.map String.utf8ByteSize) hnames
        rw [List.map_map, List.map_map] at hsizes
        exact congrArg (fun sizes ↦ sizes.max?.getD 0) hsizes

/-- A registration fails just if the name or the command is rejected, and then the supervisor is
what it was: its processes, the width of the name column and the colour that is next.  Any number of
registrations come to those of the descriptions that were accepted, so a supervisor that was new
holds the processes of these alone. -/
theorem failed_registrations_leave_no_trace (supervisor : Supervisor)
    (registrations : List Registration) :
    (∀ name command options failure,
      ((supervisor.addProcess name command options).1 = .error failure ↔
        ProcessSpec.Rejected name command failure) ∧
      ((supervisor.addProcess name command options).1 = .error failure →
        (supervisor.addProcess name command options).2 = supervisor)) ∧
    (∀ registration, (supervisor.register registration).1 = .ok () ↔
      registration.accepted = true) ∧
    supervisor.registerAll registrations =
      supervisor.addSpecs (registrations.filterMap Registration.spec?) ∧
    ∀ name gracefulTimeout kind colorize acceptance,
      Holds ((start name gracefulTimeout kind (.start colorize acceptance)).registerAll
        registrations) kind registrations := by
  refine ⟨fun name command options failure ↦ ⟨addProcess_eq_error_iff, addProcess_of_error⟩,
    fun registration ↦ register_eq_ok_iff, registerAll_eq supervisor registrations, ?_⟩
  intro name gracefulTimeout kind colorize acceptance
  exact holds_registerAll name gracefulTimeout kind colorize acceptance registrations

/-- Neither an unclosed quote nor a missing command takes a colour away. -/
example :
    ((start "main" (.ofSeconds 5) .pipe (.start false .everything)).registerAll
      [.process "api" "run" [], .process "gateway" "run 'x" [], .process "scheduler" "" [],
        .process "db" "run" []]).processes.map (fun managed ↦ (managed.name, managed.color)) =
      [("api", 2), ("db", 3)] := by
  decide

end Supervisor

end Supervision
