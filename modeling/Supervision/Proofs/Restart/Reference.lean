import Supervision.Process.Run
import Supervision.Restart

/-!
# The restart loop as it is meant

A reference for the loop of one process, without its tracker: results of runs, looks at the stop,
decisions and ends of delays follow one another as beats, and restarts are counted without bound.
The first result that is fatal, the first look that finds a stop and the first delay that is cut
short end the loop, and so does a policy that has nothing left to give.
-/

namespace Supervision

/-- What a restart loop takes in: the result of a run, whether a stop was asked for, a decision of
its policy, or whether a stop has cut a delay short. -/
inductive Beat
  | ran (result : RunResult)
  | looked (stopping : Bool)
  | decided
  | waited (cut : Bool)
  deriving Repr

/-- Where a restart loop stands after so many restarts. -/
inductive Stage
  | running (restarts : Nat)
  | looking (restarts : Nat)
  | deciding (restarts : Nat)
  | delaying (restarts : Nat)
  | returned (restarts : Nat) (result : Except Failure Unit)
  deriving Repr

namespace Stage

def restarts : Stage → Nat
  | running restarts | looking restarts | deciding restarts | delaying restarts
  | returned restarts _ => restarts

/-- What follows the run after so many restarts. -/
def decide (policy : RestartPolicy) (name : String) (restarts : Nat) : Stage :=
  match policy with
  | .never => .returned restarts (.ok ())
  | .limited limit _ =>
    if restarts < limit.toNat then .delaying (restarts + 1)
    else .returned restarts (.error (.restartsExhausted name))
  | .forever _ => .delaying (restarts + 1)

/-- Where a beat leads, if the loop can take it in now. -/
def next (policy : RestartPolicy) (name : String) : Stage → Beat → Option Stage
  | running restarts, .ran (.ok _) => some (.looking restarts)
  | running restarts, .ran (.error failure) =>
    if restarts = 0 ∨ failure.isConfiguration = true then
      some (.returned restarts (.error failure))
    else some (.looking restarts)
  | looking restarts, .looked true => some (.returned restarts (.ok ()))
  | looking restarts, .looked false => some (.deciding restarts)
  | deciding restarts, .decided => some (decide policy name restarts)
  | delaying restarts, .waited true => some (.returned restarts (.ok ()))
  | delaying restarts, .waited false => some (.running restarts)
  | _, _ => none

end Stage

/-- Where the loop stands after some beats, if it can take them in. -/
def reference (policy : RestartPolicy) (name : String) (beats : List Beat) : Option Stage :=
  beats.foldlM (Stage.next policy name) (.running 0)

@[simp]
def Beat.result? : Beat → Option RunResult
  | .ran result => some result
  | _ => none

@[simp]
def Beat.look? : Beat → Option Bool
  | .looked stopping => some stopping
  | _ => none

def results (beats : List Beat) : List RunResult := beats.filterMap Beat.result?

/-- What the looks at the stop have found, in order. -/
def looks (beats : List Beat) : List Bool := beats.filterMap Beat.look?

@[simp]
theorem results_nil : results [] = [] := rfl

@[simp]
theorem results_append (beats more : List Beat) :
    results (beats ++ more) = results beats ++ results more := by
  simp [results]

@[simp]
theorem looks_append (beats more : List Beat) :
    looks (beats ++ more) = looks beats ++ looks more := by
  simp [looks]

@[simp]
theorem results_singleton (beat : Beat) : results [beat] = beat.result?.toList := by
  cases beat <;> rfl

@[simp]
theorem looks_singleton (beat : Beat) : looks [beat] = beat.look?.toList := by
  cases beat <;> rfl

/-- May a process be run so many times? -/
def RestartPolicy.Allows (runs : Nat) : RestartPolicy → Prop
  | .never => runs ≤ 1
  | .limited limit _ => runs ≤ limit.toNat + 1
  | .forever _ => True

/-- The reasons for which a loop returns, each with the results and looks that led there. -/
inductive Returns (policy : RestartPolicy) (name : String) (beats : List Beat) :
    Nat → Except Failure Unit → Prop
  | failed {restarts : Nat} {failure : Failure}
      (fatal : restarts = 0 ∨ failure.isConfiguration = true)
      (last : (results beats)[restarts]? = some (.error failure))
      (ran : (results beats).length = restarts + 1)
      (looked : looks beats = List.replicate restarts false) :
      Returns policy name beats restarts (.error failure)
  | stopped {restarts : Nat} (ran : (results beats).length = restarts + 1)
      (looked : looks beats = List.replicate restarts false ++ [true]) :
      Returns policy name beats restarts (.ok ())
  | done (never : policy = .never) (ran : (results beats).length = 1)
      (looked : looks beats = [false]) : Returns policy name beats 0 (.ok ())
  | exhausted {limit : UInt32} {delay : Span} (limited : policy = .limited limit delay)
      (ran : (results beats).length = limit.toNat + 1)
      (looked : looks beats = List.replicate (limit.toNat + 1) false) :
      Returns policy name beats limit.toNat (.error (.restartsExhausted name))
  | cut {restarts : Nat} (last : beats.getLast? = some (.waited true))
      (ran : (results beats).length = restarts)
      (looked : looks beats = List.replicate restarts false) :
      Returns policy name beats restarts (.ok ())

/-- How many results and looks there have been at a stage, and of what kind. -/
def Stage.Counts (policy : RestartPolicy) (name : String) (beats : List Beat) : Stage → Prop
  | running restarts | delaying restarts =>
    (results beats).length = restarts ∧ looks beats = List.replicate restarts false
  | looking restarts =>
    (results beats).length = restarts + 1 ∧ looks beats = List.replicate restarts false
  | deciding restarts =>
    (results beats).length = restarts + 1 ∧ looks beats = List.replicate (restarts + 1) false
  | returned restarts result => Returns policy name beats restarts result

/-- What is known of the beats of a loop that stands at a stage. -/
structure Stage.Sound (policy : RestartPolicy) (name : String) (beats : List Beat)
    (stage : Stage) : Prop where
  allowed : policy.Allows (stage.restarts + 1)
  counts : stage.Counts policy name beats
  fatal : ∀ index failure, (results beats)[index]? = some (.error failure) →
    (index = 0 ∨ failure.isConfiguration = true) → stage = .returned index (.error failure)

namespace Stage

variable {policy : RestartPolicy} {name : String} {beats : List Beat} {stage after : Stage}
  {beat : Beat}

/-- A loop that takes in another beat has had no fatal result. -/
theorem Sound.not_fatal (sound : stage.Sound policy name beats)
    (h : stage.next policy name beat = some after) {index : Nat} {failure : Failure}
    (hresult : (results beats)[index]? = some (.error failure)) :
    ¬(index = 0 ∨ failure.isConfiguration = true) := by
  intro hfatal
  rw [sound.fatal index failure hresult hfatal] at h
  cases h

theorem Sound.fatal_of_result?_eq (sound : stage.Sound policy name beats)
    (h : stage.next policy name beat = some after) (hbeat : beat.result? = none) (index : Nat)
    (failure : Failure) (hresult : (results (beats ++ [beat]))[index]? = some (.error failure))
    (hfatal : index = 0 ∨ failure.isConfiguration = true) :
    after = .returned index (.error failure) := by
  rw [results_append, results_singleton, hbeat, Option.toList_none, List.append_nil] at hresult
  exact absurd hfatal (sound.not_fatal h hresult)

/-- A result that ends the run after so many restarts is the only one that can be fatal. -/
theorem Sound.eq_of_fatal_ran {restarts : Nat} {result : RunResult}
    (sound : (running restarts).Sound policy name beats)
    (h : (running restarts).next policy name (.ran result) = some after) (index : Nat)
    (failure : Failure)
    (hresult : (results (beats ++ [.ran result]))[index]? = some (.error failure))
    (hfatal : index = 0 ∨ failure.isConfiguration = true) :
    index = restarts ∧ result = .error failure := by
  obtain ⟨hlength, _⟩ := sound.counts
  have happend : results (beats ++ [.ran result]) = results beats ++ [result] := by simp
  rw [happend, List.getElem?_append] at hresult
  split at hresult
  · exact absurd hfatal (sound.not_fatal h hresult)
  · rw [hlength] at hresult
    obtain ⟨hlt, hget⟩ := List.getElem?_eq_some_iff.mp hresult
    simp only [List.length_singleton] at hlt
    have hindex : index = restarts := by omega
    exact ⟨hindex, by simpa using hget⟩

theorem Sound.decided {restarts : Nat} (sound : (deciding restarts).Sound policy name beats) :
    (Stage.decide policy name restarts).Sound policy name (beats ++ [.decided]) := by
  have hnext : (deciding restarts).next policy name .decided =
      some (Stage.decide policy name restarts) := rfl
  have hfatal := sound.fatal_of_result?_eq hnext rfl
  obtain ⟨hallowed, ⟨hran, hlooked⟩, _⟩ := sound
  unfold Stage.decide at hfatal ⊢
  cases policy with
  | never =>
    obtain rfl : restarts = 0 := by simpa [RestartPolicy.Allows, Stage.restarts] using hallowed
    exact ⟨hallowed, .done rfl (by simpa using hran) (by simpa using hlooked), hfatal⟩
  | limited limit delay =>
    by_cases hlimit : restarts < limit.toNat
    · simp only [hlimit, if_true] at hfatal ⊢
      refine ⟨Nat.succ_lt_succ hlimit, ⟨?_, ?_⟩, hfatal⟩
      · simpa using hran
      · simpa using hlooked
    · simp only [hlimit, if_false] at hfatal ⊢
      have hle : restarts + 1 ≤ limit.toNat + 1 := hallowed
      obtain rfl : restarts = limit.toNat := by omega
      exact ⟨hallowed, .exhausted rfl (by simpa using hran) (by simpa using hlooked), hfatal⟩
  | forever delay =>
    refine ⟨trivial, ⟨?_, ?_⟩, hfatal⟩
    · simpa using hran
    · simpa using hlooked

theorem Sound.ran {restarts : Nat} {result : RunResult}
    (sound : (running restarts).Sound policy name beats)
    (h : (running restarts).next policy name (.ran result) = some after) :
    after.Sound policy name (beats ++ [.ran result]) := by
  have hfatal := sound.eq_of_fatal_ran h
  obtain ⟨hallowed, ⟨hran, hlooked⟩, _⟩ := sound
  have hcounts : (looking restarts).Counts policy name (beats ++ [.ran result]) :=
    ⟨by simpa using hran, by simpa using hlooked⟩
  cases result with
  | ok status =>
    cases h
    refine ⟨hallowed, hcounts, fun index failure hresult hf ↦ ?_⟩
    cases (hfatal index failure hresult hf).2
  | error failure =>
    simp only [next] at h
    split at h
    case isTrue hends =>
      cases h
      refine ⟨hallowed, .failed hends ?_ hcounts.1 hcounts.2, fun index other hresult hf ↦ ?_⟩
      · simp [← hran]
      · obtain ⟨rfl, heq⟩ := hfatal index other hresult hf
        cases heq
        rfl
    case isFalse hends =>
      cases h
      refine ⟨hallowed, hcounts, fun index other hresult hf ↦ ?_⟩
      obtain ⟨rfl, heq⟩ := hfatal index other hresult hf
      cases heq
      exact absurd hf hends

/-- Every beat keeps what is known of a stage. -/
theorem Sound.next (sound : stage.Sound policy name beats)
    (h : stage.next policy name beat = some after) : after.Sound policy name (beats ++ [beat]) := by
  cases stage with
  | running restarts =>
    cases beat with
    | ran result => exact sound.ran h
    | _ => cases h
  | looking restarts =>
    cases beat with
    | looked stopping =>
      have hfatal := sound.fatal_of_result?_eq h rfl
      obtain ⟨hallowed, ⟨hran, hlooked⟩, _⟩ := sound
      cases stopping with
      | true =>
        cases h
        exact ⟨hallowed, .stopped (by simpa using hran) (by simp [hlooked]), hfatal⟩
      | false =>
        cases h
        refine ⟨hallowed, ⟨by simpa using hran, ?_⟩, hfatal⟩
        simp [hlooked, List.replicate_succ']
    | _ => cases h
  | deciding restarts =>
    cases beat with
    | decided =>
      cases h
      exact sound.decided
    | _ => cases h
  | delaying restarts =>
    cases beat with
    | waited cut =>
      have hfatal := sound.fatal_of_result?_eq h rfl
      obtain ⟨hallowed, ⟨hran, hlooked⟩, _⟩ := sound
      cases cut with
      | true =>
        cases h
        exact ⟨hallowed, .cut (by simp) (by simpa using hran) (by simpa using hlooked), hfatal⟩
      | false =>
        cases h
        exact ⟨hallowed, ⟨by simpa using hran, by simpa using hlooked⟩, hfatal⟩
    | _ => cases h
  | returned restarts result => cases h

/-- What is known of a stage is kept by any beats that can be taken in. -/
theorem Sound.foldlM {more : List Beat} (sound : stage.Sound policy name beats)
    (h : more.foldlM (Stage.next policy name) stage = some after) :
    after.Sound policy name (beats ++ more) := by
  induction more generalizing beats stage with
  | nil =>
    cases h
    simpa using sound
  | cons beat more ih =>
    obtain ⟨middle, hnext, hrest⟩ := Option.bind_eq_some_iff.mp h
    have hassoc : beats ++ beat :: more = (beats ++ [beat]) ++ more := by simp
    rw [hassoc]
    exact ih (sound.next hnext) hrest

end Stage

/-- The beats that led to a stage are as the stage says. -/
theorem reference_sound {policy : RestartPolicy} {name : String} {beats : List Beat} {stage : Stage}
    (h : reference policy name beats = some stage) : stage.Sound policy name beats := by
  have hstart : (Stage.running 0).Sound policy name [] := by
    refine ⟨?_, ⟨rfl, rfl⟩, fun index failure hresult ↦ ?_⟩
    · cases policy <;> simp [RestartPolicy.Allows, Stage.restarts]
    · cases hresult
  exact hstart.foldlM h

theorem reference_append {policy : RestartPolicy} {name : String} {beats more : List Beat}
    {stage after : Stage} (h : reference policy name beats = some stage)
    (hmore : more.foldlM (Stage.next policy name) stage = some after) :
    reference policy name (beats ++ more) = some after := by
  unfold reference at h ⊢
  rw [List.foldlM_append, h]
  exact hmore

/-! ## What the stages say of a loop -/

section

variable {policy : RestartPolicy} {name : String} {beats : List Beat} {stage : Stage}

/-- A policy that allows some runs allows fewer. -/
theorem RestartPolicy.Allows.mono {runs more : Nat} (allowed : policy.Allows more)
    (h : runs ≤ more) : policy.Allows runs := by
  cases policy with
  | never | limited => exact Nat.le_trans h allowed
  | forever => trivial

/-- A loop has run at most once more than it was restarted. -/
theorem Returns.length_results_le {restarts : Nat} {result : Except Failure Unit}
    (h : Returns policy name beats restarts result) : (results beats).length ≤ restarts + 1 := by
  cases h with
  | failed _ _ ran | stopped ran | done _ ran | exhausted _ ran => exact Nat.le_of_eq ran
  | cut _ ran => omega

/-- A look that finds a stop is the last, and the loop returns well. -/
theorem Stage.Sound.eq_returned_of_looked {index : Nat} (sound : stage.Sound policy name beats)
    (looked : (looks beats)[index]? = some true) : stage = .returned index (.ok ()) := by
  have hmem : true ∈ looks beats := List.mem_of_getElem? looked
  have hcounts := sound.counts
  cases stage with
  | running restarts | looking restarts | deciding restarts | delaying restarts =>
    rw [hcounts.2] at hmem
    simp at hmem
  | returned restarts result =>
    cases hcounts with
    | stopped _ hlooked =>
      rw [hlooked, List.getElem?_append] at looked
      split at looked
      · simp [List.getElem?_replicate] at looked
      · obtain ⟨hlt, _⟩ := List.getElem?_eq_some_iff.mp looked
        simp only [List.length_replicate, List.length_singleton] at hlt
        simp only [List.length_replicate] at *
        congr 1
        omega
    | failed _ _ _ hlooked | done _ _ hlooked | exhausted _ _ hlooked | cut _ _ hlooked =>
      rw [hlooked] at hmem
      simp at hmem

/-- The budget is exhausted exactly if it allows one look more than restarts and no look has found
a stop; or else the very first run has come to the same failure. -/
theorem Stage.Sound.exhausted_iff (sound : stage.Sound policy name beats) :
    (∃ restarts, stage = .returned restarts (.error (.restartsExhausted name))) ↔
      (∃ limit delay, policy = .limited limit delay ∧
        looks beats = List.replicate (limit.toNat + 1) false ∧
          ∀ restarts, stage ≠ .deciding restarts) ∨
      results beats = [.error (.restartsExhausted name)] := by
  constructor
  · rintro ⟨restarts, rfl⟩
    cases sound.counts with
    | failed fatal last ran =>
      obtain rfl : restarts = 0 := by simpa [Failure.isConfiguration] using fatal
      obtain ⟨result, hresult⟩ := List.length_eq_one_iff.mp ran
      refine .inr ?_
      rw [hresult] at last ⊢
      simpa using last
    | exhausted limited _ looked => exact .inl ⟨_, _, limited, looked, by simp⟩
  · rintro (⟨limit, delay, rfl, looked, undecided⟩ | hresults)
    · have hallowed : stage.restarts + 1 ≤ limit.toNat + 1 := sound.allowed
      have habsurd (h : looks beats = List.replicate stage.restarts false) : False := by
        have hlength := congrArg List.length (looked.symm.trans h)
        simp only [List.length_replicate] at hlength
        omega
      have hcounts := sound.counts
      cases stage with
      | running restarts | looking restarts | delaying restarts =>
        exact (habsurd hcounts.2).elim
      | deciding restarts => exact absurd rfl (undecided restarts)
      | returned restarts result =>
        cases hcounts with
        | failed _ _ _ hlooked | cut _ _ hlooked => exact (habsurd hlooked).elim
        | stopped _ hlooked =>
          have hmem : true ∈ List.replicate (limit.toNat + 1) false := by
            rw [← looked, hlooked]
            simp
          simp at hmem
        | done never => cases never
        | exhausted limited =>
          cases limited
          exact ⟨_, rfl⟩
    · exact ⟨0, sound.fatal 0 _ (by simp [hresults]) (.inl rfl)⟩

end

end Supervision
