import Supervision.Proofs.Restart.Loop

/-!
# The chronicle of a process

The lines about a process, with the starts and ends of its children, make up a chronicle: attempts
to run it, a restart announced before each but the first, and at the end perhaps a line that it is
done or given up.  Lines about signals stand inside the attempt that has started the child, between
the line that it runs and the line that it has exited.
-/

namespace Supervision

/-- Does an event belong to a chronicle?  The output of a child, the signals and the published
states do not. -/
def Event.isTold : Event → Bool
  | .wrote _ | .spawned _ | .reaped _ | .lost _ => true
  | .copied .. | .signalled .. | .published _ => false

/-- What is told of a process. -/
def told (events : List Event) : List Event := events.filter Event.isTold

@[simp]
theorem told_nil : told [] = [] := rfl

@[simp]
theorem told_append (events more : List Event) : told (events ++ more) = told events ++ told more :=
  List.filter_append ..

/-- Lines about signals to a child: each is about the stop signal or SIGKILL, and after it stands
why the signal could not be sent, if it could not. -/
inductive SignalLines (stop : Signal) : List Notice → Prop
  | none : SignalLines stop []
  | sent {lines : List Notice} {notice : Notice} (before : SignalLines stop lines)
      (about : notice = .stopping stop ∨ notice = .killing) : SignalLines stop (lines ++ [notice])
  | unsent {lines : List Notice} {notice : Notice} (before : SignalLines stop lines)
      (about : notice = .stopping stop ∨ notice = .killing) (failure : Failure) :
      SignalLines stop (lines ++ [notice, .signalFailed failure])

/-- What is told of an attempt from the start of its child until the wait for it has ended. -/
inductive Ended (spec : ProcessSpec) (waited : Waited) : List Event → Prop
  | mk {before after : List Notice} (pid : UInt32) (waiting : SignalLines spec.stopSignal before)
      (ended : SignalLines spec.stopSignal after) :
      Ended spec waited (.wrote .running :: .spawned pid :: before.map .wrote ++
        Managed.endOfWait pid waited :: after.map .wrote)

/-- What is told of one attempt to run a process: of its child until the exit is told, that it could
not be started, or that it could not be given a channel. -/
inductive Attempt (spec : ProcessSpec) : List Event → Prop
  | exited {events : List Event} {status : ExitStatus} (ended : Ended spec (.ok status) events) :
      Attempt spec (events ++ [.wrote (.exited status)])
  | lost {events : List Event} {cause : IoCause} (ended : Ended spec (.error cause) events) :
      Attempt spec (events ++ [.wrote (.waitFailed cause)])
  | unlaunched (failure : Failure) : Attempt spec [.wrote .running, .wrote (.failed failure)]
  | unprepared (failure : Failure) : Attempt spec [.wrote (.failed failure)]

/-- What is told before an attempt that comes after so many restarts. -/
inductive Attempts (spec : ProcessSpec) : Nat → List Event → Prop
  | none : Attempts spec 0 []
  | again {restarts : Nat} {events attempted : List Event} (before : Attempts spec restarts events)
      (attempt : Attempt spec attempted) :
      Attempts spec (restarts + 1) (events ++ attempted ++
        [.wrote (.restarting (Supervision.attempt (restarts + 1)) spec.restart.delay)])

/-- The line that ends a chronicle, if there is one. -/
inductive Closing (spec : ProcessSpec) : List Event → Prop
  | silent : Closing spec []
  | done (never : spec.restart = .never) : Closing spec [.wrote .done]
  | exhausted {limit : UInt32} {delay : Span} (limited : spec.restart = .limited limit delay) :
      Closing spec [.wrote .exhausted]

/-- All that is told of a process.  After the last restart an attempt is made and told, or a stop
was asked for and nothing more is told. -/
inductive Chronicle (spec : ProcessSpec) (stopping : Bool) : List Event → Prop
  | attempted {restarts : Nat} {events attempted closing : List Event}
      (before : Attempts spec restarts events) (attempt : Attempt spec attempted)
      (last : Closing spec closing) : Chronicle spec stopping (events ++ attempted ++ closing)
  | unattempted {restarts : Nat} {events : List Event} (before : Attempts spec restarts events)
      (asked : stopping = true) : Chronicle spec stopping events

theorem Attempts.chronicle {spec : ProcessSpec} {stopping : Bool} {restarts : Nat}
    {before attempted : List Event} (hbefore : Attempts spec restarts before)
    (h : Attempt spec attempted ∨ attempted = [] ∧ stopping = true) :
    Chronicle spec stopping (before ++ attempted) := by
  rcases h with attempt | ⟨rfl, asked⟩
  · have hchronicle : Chronicle spec stopping (before ++ attempted ++ []) :=
      .attempted hbefore attempt .silent
    simpa using hchronicle
  · simpa using Chronicle.unattempted hbefore asked

/-! ## Chronicles under way -/

/-- The output of a child is no part of the chronicle. -/
theorem Managed.told_read {managed after : Managed} {run : Nat} {result : Output.ReadResult}
    {events : List Event} (h : managed.read run result = some (after, events)) :
    told events = [] := by
  refine List.filter_eq_nil_iff.mpr fun event hevent ↦ ?_
  obtain ⟨_, rfl⟩ := copied_of_mem_read h hevent
  exact Bool.false_ne_true

/-- What has been told of the present attempt fits how far the run has come. -/
def RunPhase.Told (spec : ProcessSpec) (stopping : Bool) (events : List Event) : RunPhase → Prop
  | .opening | .atGate | .checking => events = []
  | .launching => events = [.wrote .running]
  | .recorded pid => events = [.wrote .running, .spawned pid]
  | .waiting pid => ∃ lines, SignalLines spec.stopSignal lines ∧
      events = .wrote .running :: .spawned pid :: lines.map .wrote
  | .reaped waited | .cleared waited | .draining waited | .reporting waited =>
    Ended spec waited events
  | .returned (.ok status) =>
    Attempt spec events ∨ status = none ∧ events = [] ∧ stopping = true
  | .returned (.error _) => events = [] ∨ events = [.wrote .running]

/-- What a move tells goes on from what was told in the phase before. -/
theorem Managed.Moved.told {stopping : Bool} {managed : Managed} {phase : RunPhase}
    {move : RunMove} {step : RunStep} {spec : ProcessSpec} {events : List Event}
    (h : Moved stopping managed phase move step) (htold : phase.Told spec stopping events) :
    step.phase.Told spec stopping (events ++ Supervision.told step.events) := by
  have hnone : events ++ Supervision.told [] = events := List.append_nil events
  cases h with
  | opened | locked | cleared | drained | drainExpired => exact hnone.symm ▸ htold
  | published => exact hnone.symm ▸ htold
  | openFailed failure | unprepared failure => exact .inl (hnone.trans htold)
  | refused prepared asked => exact .inr ⟨rfl, hnone.trans htold, asked⟩
  | launchFailed failure => exact .inr (hnone.trans htold)
  | passed | launched pid =>
    obtain rfl : events = _ := htold
    rfl
  | announced pid =>
    obtain rfl : events = _ := htold
    exact ⟨[], .none, rfl⟩
  | waited pid waited =>
    obtain ⟨lines, hlines, rfl⟩ := htold
    have hended : Supervision.told [endOfWait pid waited] = [endOfWait pid waited] := by
      cases waited <;> rfl
    rw [hended]
    exact .mk pid hlines .none
  | reported status => exact .inl (.exited htold)
  | reportedLoss cause => exact .inl (.lost htold)

namespace RunPhase.Told

variable {spec : ProcessSpec} {stopping : Bool} {events : List Event} {phase : RunPhase}

/-- A stop that is asked for changes nothing of it. -/
theorem mono {asked : Bool} (htold : phase.Told spec stopping events)
    (h : stopping = true → asked = true) : phase.Told spec asked events := by
  cases phase with
  | returned result =>
    cases result with
    | ok status => exact htold.imp_right fun ⟨hnone, hevents, hasked⟩ ↦ ⟨hnone, hevents, h hasked⟩
    | error failure => exact htold
  | _ => exact htold

/-- A failed run becomes an attempt when its failure is told. -/
theorem attempt_of_failed {failure : Failure}
    (htold : (returned (.error failure)).Told spec stopping events) :
    Attempt spec (events ++ [.wrote (.failed failure)]) := by
  rcases htold with rfl | rfl
  · exact .unprepared failure
  · exact .unlaunched failure

/-- Every attempt can be told to its end. -/
theorem completes (htold : phase.Told spec stopping events) :
    ∃ rest, Attempt spec (events ++ rest) ∨ events ++ rest = [] ∧ stopping = true := by
  let failure : Failure := .restartsExhausted spec.name
  have hended {waited : Waited} {events : List Event} (h : Ended spec waited events) :
      ∃ rest, Attempt spec (events ++ rest) := by
    cases waited with
    | ok status => exact ⟨_, .exited h⟩
    | error cause => exact ⟨_, .lost h⟩
  cases phase with
  | opening | atGate | checking =>
    obtain rfl : events = [] := htold
    exact ⟨_, .inl (.unprepared failure)⟩
  | launching =>
    obtain rfl : events = _ := htold
    exact ⟨[.wrote (.failed failure)], .inl (.unlaunched failure)⟩
  | recorded pid =>
    obtain rfl : events = _ := htold
    exact ⟨[.reaped pid, .wrote (.exited (.exited 0))], .inl (.exited (.mk pid .none .none))⟩
  | waiting pid =>
    obtain ⟨lines, hlines, rfl⟩ := htold
    have hreaped : Ended spec (.ok (.exited 0)) _ := .mk pid hlines .none
    obtain ⟨rest, hrest⟩ := hended hreaped
    exact ⟨.reaped pid :: rest, .inl (by simpa [Managed.endOfWait] using hrest)⟩
  | reaped waited | cleared waited | draining waited | reporting waited =>
    obtain ⟨rest, hrest⟩ := hended htold
    exact ⟨rest, .inl hrest⟩
  | returned result =>
    cases result with
    | ok status =>
      refine ⟨[], ?_⟩
      rw [List.append_nil]
      exact htold.imp_right And.right
    | error failure => exact ⟨_, .inl htold.attempt_of_failed⟩

end RunPhase.Told

/-! ## Restart loops -/

namespace RestartTracker

/-- What a policy decides after so many restarts. -/
inductive DecidesAfter (policy : RestartPolicy) (restarts : Nat) :
    RestartDecision × RestartTracker → Prop
  | done (never : policy = .never) : DecidesAfter policy restarts (.done, after policy restarts)
  | exhausted {limit : UInt32} {delay : Span} (limited : policy = .limited limit delay) :
      DecidesAfter policy restarts (.exhausted (attempt restarts), after policy restarts)
  | retry : DecidesAfter policy restarts
      (.retry (attempt (restarts + 1)) policy.delay, after policy (restarts + 1))

theorem decidesAfter (policy : RestartPolicy) (restarts : Nat) :
    DecidesAfter policy restarts (after policy restarts).next := by
  cases policy with
  | never => exact .done rfl
  | limited limit delay =>
    rw [next_after_limited]
    split
    · exact .retry
    · exact .exhausted rfl
  | forever delay =>
    rw [next_after_forever]
    exact .retry

end RestartTracker

/-- What has been told of a process fits how far its loop has come after so many restarts. -/
def TaskPhase.Told (spec : ProcessSpec) (stopping : Bool) (restarts : Nat) (events : List Event) :
    TaskPhase → Prop
  | .running phase => ∃ before attempted, events = before ++ attempted ∧
      Attempts spec restarts before ∧ phase.Told spec stopping attempted
  | .checking => ∃ before attempted, events = before ++ attempted ∧
      Attempts spec restarts before ∧
        (Attempt spec attempted ∨ attempted = [] ∧ stopping = true)
  | .deciding => ∃ before attempted, events = before ++ attempted ∧
      Attempts spec restarts before ∧ Attempt spec attempted
  | .delaying _ => Attempts spec restarts events
  | .returned _ => Chronicle spec stopping events

/-- What has been told of a process fits its loop and the restarts that it has counted. -/
def Task.Tells (task : Task) (spec : ProcessSpec) (stopping : Bool) (events : List Event) : Prop :=
  ∃ restarts, task.tracker = .after spec.restart restarts ∧
    task.phase.Told spec stopping restarts events

namespace TaskPhase.Told

variable {spec : ProcessSpec} {stopping : Bool} {restarts : Nat} {events : List Event}
  {phase : TaskPhase}

/-- A stop that is asked for changes nothing of it. -/
theorem mono {asked : Bool} (htold : phase.Told spec stopping restarts events)
    (h : stopping = true → asked = true) : phase.Told spec asked restarts events := by
  cases phase with
  | running phase =>
    obtain ⟨before, attempted, hevents, hbefore, htold⟩ := htold
    exact ⟨before, attempted, hevents, hbefore, htold.mono h⟩
  | checking =>
    obtain ⟨before, attempted, hevents, hbefore, hattempted⟩ := htold
    exact ⟨before, attempted, hevents, hbefore, hattempted.imp_right (And.imp_right h)⟩
  | returned result =>
    cases htold with
    | attempted before attempt last => exact .attempted before attempt last
    | unattempted before asked => exact .unattempted before (h asked)
  | deciding | delaying delay => exact htold

/-- Every loop can be told to its end. -/
theorem completes (htold : phase.Told spec stopping restarts events) :
    ∃ rest, Chronicle spec stopping (events ++ rest) := by
  cases phase with
  | running phase =>
    obtain ⟨before, attempted, rfl, hbefore, htold⟩ := htold
    obtain ⟨rest, hrest⟩ := htold.completes
    refine ⟨rest, ?_⟩
    rw [List.append_assoc]
    exact hbefore.chronicle hrest
  | checking =>
    obtain ⟨before, attempted, rfl, hbefore, hattempt⟩ := htold
    exact ⟨[], by simpa using hbefore.chronicle hattempt⟩
  | deciding =>
    obtain ⟨before, attempted, rfl, hbefore, hattempt⟩ := htold
    exact ⟨[], by simpa using hbefore.chronicle (.inl hattempt)⟩
  | delaying delay =>
    have hbefore : Attempts spec restarts events := htold
    exact ⟨_, hbefore.chronicle (.inl (.unprepared (.restartsExhausted spec.name)))⟩
  | returned result =>
    have hchronicle : Chronicle spec stopping events := htold
    exact ⟨[], by simpa using hchronicle⟩

end TaskPhase.Told

namespace Task

variable {stopping : Bool} {task : Task} {move : TaskMove} {step : TaskStep} {spec : ProcessSpec}
  {events : List Event}

theorem tells_ofManaged (managed : Managed) (stopping : Bool) :
    (ofManaged managed).Tells managed.spec stopping [] :=
  ⟨0, rfl, [], [], rfl, .none, rfl⟩

theorem told_leave (task : Task) (result : Except Failure Unit) (notices : List Notice) :
    told (task.leave result notices).events = notices.map .wrote := by
  simp [leave, told, Event.isTold]

/-- A loop that is left has told its chronicle with its last lines. -/
theorem tells_leave {restarts : Nat} {result : Except Failure Unit} {notices : List Notice}
    (htracker : task.tracker = .after spec.restart restarts)
    (h : Chronicle spec stopping (events ++ notices.map .wrote)) :
    (task.leave result notices).task.Tells spec stopping
      (events ++ told (task.leave result notices).events) := by
  rw [told_leave]
  exact ⟨restarts, htracker, h⟩

/-- What a decision tells stands between two attempts, or ends the chronicle. -/
theorem tells_decide (at_ : task.phase = .deciding) (tells : task.Tells spec stopping events) :
    task.decide.task.Tells spec stopping (events ++ told task.decide.events) := by
  obtain ⟨restarts, htracker, htold⟩ := tells
  rw [at_] at htold
  obtain ⟨before, attempted, rfl, hbefore, hattempt⟩ := htold
  have hdecides := RestartTracker.decidesAfter spec.restart restarts
  rw [← htracker] at hdecides
  unfold decide
  generalize task.tracker.next = next at hdecides ⊢
  cases hdecides with
  | done never =>
    exact tells_leave rfl (.attempted hbefore hattempt (.done never))
  | exhausted limited =>
    exact tells_leave rfl (.attempted hbefore hattempt (.exhausted limited))
  | retry => exact ⟨restarts + 1, rfl, .again hbefore hattempt⟩

/-- Every move of a loop goes on with its chronicle. -/
theorem Moved.tells (h : Moved stopping task move step) (tells : task.Tells spec stopping events) :
    step.task.Tells spec stopping (events ++ told step.events) := by
  have hmoved := h
  have htells := tells
  have hnone : events ++ told [] = events := List.append_nil events
  obtain ⟨restarts, htracker, htold⟩ := tells
  cases h with
  | read hread =>
    refine ⟨restarts, htracker, ?_⟩
    rw [Managed.told_read hread, List.append_nil]
    exact htold
  | run at_ h =>
    rw [at_] at htold
    obtain ⟨before, attempted, rfl, hbefore, htold⟩ := htold
    exact ⟨restarts, htracker, before, _, List.append_assoc .., hbefore, h.told htold⟩
  | succeeded at_ =>
    rw [at_] at htold
    obtain ⟨before, attempted, rfl, hbefore, htold⟩ := htold
    exact ⟨restarts, htracker, before, attempted, hnone, hbefore, htold.imp_right And.right⟩
  | failed at_ fatal =>
    rw [at_] at htold
    obtain ⟨before, attempted, rfl, hbefore, htold⟩ := htold
    refine tells_leave htracker ?_
    rw [List.append_assoc]
    exact hbefore.chronicle (.inl htold.attempt_of_failed)
  | failedOnce at_ mild =>
    rw [at_] at htold
    obtain ⟨before, attempted, rfl, hbefore, htold⟩ := htold
    exact ⟨restarts, htracker, before, _, List.append_assoc .., hbefore,
      .inl htold.attempt_of_failed⟩
  | stopped at_ asked =>
    rw [at_] at htold
    obtain ⟨before, attempted, rfl, hbefore, hattempt⟩ := htold
    exact tells_leave htracker (hnone.symm ▸ hbefore.chronicle hattempt)
  | unstopped at_ unasked =>
    rw [at_] at htold
    obtain ⟨before, attempted, rfl, hbefore, hattempt⟩ := htold
    refine ⟨restarts, htracker, before, attempted, hnone, hbefore, hattempt.resolve_right ?_⟩
    rintro ⟨_, asked⟩
    exact Bool.false_ne_true (unasked.symm.trans asked)
  | done | exhausted | retried =>
    obtain ⟨at_, hstep⟩ := hmoved.eq_decide
    rw [hstep]
    exact tells_decide at_ htells
  | woken at_ =>
    rw [at_] at htold
    exact ⟨restarts, htracker, events, [], by simp, htold, rfl⟩
  | cancelled at_ asked =>
    rw [at_] at htold
    exact tells_leave htracker (hnone.symm ▸ .unattempted htold asked)

end Task

/-! ## Signals -/

/-- Lines about a signal can still be added as long as the end of the wait has not been told. -/
theorem Ended.signalled {spec : ProcessSpec} {waited : Waited} {events : List Event}
    {added : List Notice} (ended : Ended spec waited events)
    (adds : ∀ lines, SignalLines spec.stopSignal lines →
      SignalLines spec.stopSignal (lines ++ added)) :
    Ended spec waited (events ++ added.map .wrote) := by
  cases ended with
  | mk pid waiting after =>
    have hended : Ended spec waited _ := .mk pid waiting (adds _ after)
    simpa using hended

namespace Managed

variable {managed : Managed} {notice : Notice} {signal : Signal} {sent : Except Failure Unit}

/-- Without a recorded child nothing is told of a signal. -/
theorem told_signal_of_no_pid (unrecorded : managed.pid = none) :
    told (managed.signal notice signal sent) = [] := by
  unfold Managed.signal
  rw [unrecorded]
  rfl

/-- What is told of a signal is more of its lines. -/
theorem told_signal {pid : UInt32} {stop : Signal} (signal : Signal) (sent : Except Failure Unit)
    (recorded : managed.pid = some pid) (about : notice = .stopping stop ∨ notice = .killing) :
    ∃ added, told (managed.signal notice signal sent) = added.map .wrote ∧
      ∀ lines, SignalLines stop lines → SignalLines stop (lines ++ added) := by
  unfold Managed.signal
  rw [recorded]
  cases sent with
  | ok _ => exact ⟨[notice], rfl, fun lines before ↦ .sent before about⟩
  | error failure =>
    exact ⟨[notice, .signalFailed failure], rfl, fun lines before ↦ .unsent before about failure⟩

end Managed

namespace Task

variable {stopping : Bool} {task : Task} {spec : ProcessSpec} {events : List Event}

/-- A recorded child that signals can be sent to is waited for, or has just exited. -/
theorem Sound.phase_of_pid {pid : UInt32} (sound : task.Sound) (free : task.holdsLock = false)
    (recorded : task.managed.pid = some pid) :
    task.phase = .running (.waiting pid) ∨ ∃ waited, task.phase = .running (.reaped waited) := by
  unfold Sound at sound
  unfold holdsLock at free
  split at sound <;> simp_all [RunPhase.holdsLock]

/-- A signal goes on with the chronicle. -/
theorem Tells.signalled {notice : Notice} {signal : Signal} {sent : Except Failure Unit}
    (tells : task.Tells spec stopping events) (sound : task.Sound) (free : task.holdsLock = false)
    (about : notice = .stopping spec.stopSignal ∨ notice = .killing) :
    task.Tells spec stopping (events ++ told (task.managed.signal notice signal sent)) := by
  cases hpid : task.managed.pid with
  | none =>
    rw [Managed.told_signal_of_no_pid hpid, List.append_nil]
    exact tells
  | some pid =>
    obtain ⟨added, hadded, adds⟩ := Managed.told_signal signal sent hpid about
    obtain ⟨restarts, htracker, htold⟩ := tells
    refine ⟨restarts, htracker, ?_⟩
    rw [hadded]
    rcases sound.phase_of_pid free hpid with hphase | ⟨waited, hphase⟩
    · rw [hphase] at htold ⊢
      obtain ⟨before, _, rfl, hbefore, lines, hlines, rfl⟩ := htold
      exact ⟨before, _, List.append_assoc .., hbefore, lines ++ added, adds lines hlines, by simp⟩
    · rw [hphase] at htold ⊢
      obtain ⟨before, attempted, rfl, hbefore, hended⟩ := htold
      exact ⟨before, _, List.append_assoc .., hbefore, hended.signalled adds⟩

/-- A loop that has returned tells nothing more. -/
theorem Moved.told_of_returned {move : TaskMove} {step : TaskStep} {result : Except Failure Unit}
    (h : Moved stopping task move step) (at_ : task.phase = .returned result) :
    told step.events = [] := by
  obtain ⟨_, _, _, hread, _⟩ := h.read_of_returned at_
  exact Managed.told_read hread

end Task

end Supervision
