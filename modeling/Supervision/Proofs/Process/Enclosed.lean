import Supervision.Proofs.Process.Chronicle
import Supervision.Proofs.Shutdown.Escape

/-!
# Lines about signals are enclosed

A line that a signal is sent belongs to one attempt to run the process.  It stands between the line
that the child runs and the line how it has ended, with nothing but lines about signals in between;
in a chronicle under way, the line how it has ended may still be missing.
-/

namespace Supervision

def Event.notice? : Event → Option Notice
  | .wrote notice => some notice
  | _ => none

def notices (events : List Event) : List Notice := events.filterMap Event.notice?

@[simp]
theorem notices_nil : notices [] = [] := rfl

@[simp]
theorem notices_append (events more : List Event) :
    notices (events ++ more) = notices events ++ notices more :=
  List.filterMap_append ..

@[simp]
theorem notices_map_wrote (lines : List Notice) : notices (lines.map .wrote) = lines := by
  simp [notices, List.filterMap_map, Function.comp_def, Event.notice?]

/-- No line is left out of a chronicle. -/
theorem notices_told (events : List Event) : notices (told events) = notices events := by
  unfold notices told
  rw [List.filterMap_filter]
  congr 1
  funext event
  cases event <;> rfl

/-! ## Enclosed lines -/

namespace Notice

def sends : Notice → Bool
  | stopping _ | killing => true
  | _ => false

/-- Is the line about a signal, or why it could not be sent? -/
def aboutSignal : Notice → Bool
  | stopping _ | killing | signalFailed _ => true
  | _ => false

/-- Does the line say how the wait for the child has ended? -/
def tellsEnd : Notice → Bool
  | exited _ | waitFailed _ => true
  | _ => false

end Notice

/-- Every line that a signal is sent stands between the line that the child runs and the line how it
has ended, and all lines in between are about signals. -/
def Enclosed (lines : List Notice) : Prop :=
  ∀ earlier notice later, lines = earlier ++ notice :: later → notice.sends = true →
    ∃ front between after last rest, earlier = front ++ .running :: between ∧
      later = after ++ last :: rest ∧ (∀ line ∈ between ++ after, line.aboutSignal = true) ∧
        last.tellsEnd = true

theorem enclosed_of_not_sends {lines : List Notice} (h : ∀ line ∈ lines, line.sends = false) :
    Enclosed lines := by
  rintro earlier notice later rfl hsends
  have hnot : notice.sends = false := h notice (by simp)
  exact absurd (hsends.symm.trans hnot) Bool.false_ne_true.symm

/-- Lines enclosed in either part are enclosed in the whole, and the first of the new lines is not
about a signal, for nothing before it could enclose it. -/
theorem Enclosed.append {lines more : List Notice} (h : Enclosed lines) (hmore : Enclosed more) :
    Enclosed (lines ++ more) := by
  intro earlier notice later hsplit hsends
  rcases List.append_eq_append_iff.mp hsplit with ⟨skipped, rfl, hnew⟩ | ⟨kept, rfl, hold⟩
  · obtain ⟨front, between, after, last, rest, rfl, hlater, hlines, hlast⟩ :=
      hmore skipped notice later hnew hsends
    exact ⟨lines ++ front, between, after, last, rest, by simp, hlater, hlines, hlast⟩
  · cases kept with
    | nil =>
      obtain ⟨front, between, _, _, _, hearlier, _⟩ := hmore [] notice later hold.symm hsends
      simp at hearlier
    | cons first kept =>
      obtain ⟨rfl, rfl⟩ := List.cons.inj hold
      obtain ⟨front, between, after, last, rest, hearlier, rfl, hlines, hlast⟩ :=
        h earlier notice kept rfl hsends
      exact ⟨front, between, after, last, rest ++ more, hearlier, by simp, hlines, hlast⟩

/-- The lines of an attempt that has started a child.  Neither the first nor the last of them is one
that a signal is sent. -/
theorem enclosed_attempt {lines : List Notice} {last : Notice}
    (h : ∀ line ∈ lines, line.aboutSignal = true) (hlast : last.tellsEnd = true) :
    Enclosed (.running :: (lines ++ [last])) := by
  intro earlier notice later hsplit hsends
  cases earlier with
  | nil =>
    obtain ⟨rfl, _⟩ := List.cons.inj hsplit
    cases hsends
  | cons first earlier =>
    obtain ⟨rfl, hlines⟩ := List.cons.inj hsplit
    rcases split_of_append_eq hlines with ⟨rest, rfl, rfl⟩ | ⟨front, hnew⟩
    · refine ⟨[], earlier, rest, last, [], rfl, rfl, fun line hline ↦ h line ?_, hlast⟩
      rcases List.mem_append.mp hline with hearlier | hrest
      · exact List.mem_append_left _ hearlier
      · exact List.mem_append_right _ (List.mem_cons_of_mem _ hrest)
    · have hmem : notice ∈ [last] := by simp [hnew]
      obtain rfl := List.mem_singleton.mp hmem
      cases notice <;> simp_all [Notice.sends, Notice.tellsEnd]

theorem SignalLines.aboutSignal {stop : Signal} {lines : List Notice} (h : SignalLines stop lines) :
    ∀ line ∈ lines, line.aboutSignal = true := by
  have hnotice {notice : Notice} (about : notice = .stopping stop ∨ notice = .killing) :
      notice.aboutSignal = true := by
    rcases about with rfl | rfl <;> rfl
  induction h with
  | none => simp
  | sent before about ih => simpa using fun line hline ↦ hline.elim (ih line) (· ▸ hnotice about)
  | unsent before about failure ih =>
    intro line hline
    simp only [List.mem_append, List.mem_cons, List.not_mem_nil, or_false] at hline
    rcases hline with hline | rfl | rfl
    · exact ih line hline
    · exact hnotice about
    · rfl

/-- A child is said to run before anything else, and up to its end all lines are about signals. -/
theorem Ended.notices_eq {spec : ProcessSpec} {waited : Waited} {events : List Event}
    (h : Ended spec waited events) :
    ∃ lines, notices events = .running :: lines ∧ ∀ line ∈ lines, line.aboutSignal = true := by
  cases h with
  | @mk before after pid waiting ended =>
    refine ⟨before ++ after, ?_, ?_⟩
    · have hend : notices [Managed.endOfWait pid waited] = [] := by cases waited <;> rfl
      change notices ([.wrote .running, .spawned pid] ++ before.map .wrote ++
        ([Managed.endOfWait pid waited] ++ after.map .wrote)) = _
      rw [notices_append, notices_append, notices_append, notices_map_wrote, notices_map_wrote,
        hend]
      rfl
    · intro line hline
      rcases List.mem_append.mp hline with h | h
      · exact waiting.aboutSignal line h
      · exact ended.aboutSignal line h

theorem Attempt.enclosed {spec : ProcessSpec} {events : List Event} (h : Attempt spec events) :
    Enclosed (notices events) := by
  cases h with
  | exited ended =>
    obtain ⟨lines, hlines, habout⟩ := ended.notices_eq
    rw [notices_append, hlines]
    exact enclosed_attempt habout rfl
  | lost ended =>
    obtain ⟨lines, hlines, habout⟩ := ended.notices_eq
    rw [notices_append, hlines]
    exact enclosed_attempt habout rfl
  | unlaunched failure | unprepared failure =>
    exact enclosed_of_not_sends (by simp [notices, Event.notice?, Notice.sends])

theorem Attempts.enclosed {spec : ProcessSpec} {restarts : Nat} {events : List Event}
    (h : Attempts spec restarts events) : Enclosed (notices events) := by
  induction h with
  | none => exact enclosed_of_not_sends (by simp)
  | again before attempt ih =>
    rw [notices_append, notices_append]
    refine (ih.append attempt.enclosed).append (enclosed_of_not_sends ?_)
    simp [notices, Event.notice?, Notice.sends]

/-- No line about a signal stands outside the life of a child. -/
theorem Chronicle.enclosed {spec : ProcessSpec} {stopping : Bool} {events : List Event}
    (h : Chronicle spec stopping events) : Enclosed (notices events) := by
  cases h with
  | attempted before attempt last =>
    rw [notices_append, notices_append]
    refine (before.enclosed.append attempt.enclosed).append (enclosed_of_not_sends ?_)
    cases last <;> simp [notices, Event.notice?, Notice.sends]
  | unattempted before asked => exact before.enclosed

/-- In the beginning of some lines, what encloses a line may stand there only in part. -/
theorem Enclosed.of_append {lines rest earlier later : List Notice} {notice : Notice}
    (h : Enclosed (lines ++ rest)) (hsplit : lines = earlier ++ notice :: later)
    (hsends : notice.sends = true) :
    (∃ front between, earlier = front ++ .running :: between ∧
      ∀ line ∈ between, line.aboutSignal = true) ∧
    ((∀ line ∈ later, line.aboutSignal = true) ∨
      ∃ after last rest, later = after ++ last :: rest ∧
        (∀ line ∈ after, line.aboutSignal = true) ∧ last.tellsEnd = true) := by
  have hwhole : lines ++ rest = earlier ++ notice :: (later ++ rest) := by simp [hsplit]
  obtain ⟨front, between, after, last, tail, hearlier, hlater, hlines, hlast⟩ :=
    h earlier notice (later ++ rest) hwhole hsends
  have habout := List.forall_mem_append.mp hlines
  refine ⟨⟨front, between, hearlier, habout.1⟩, ?_⟩
  rcases List.append_eq_append_iff.mp hlater with ⟨missing, hafter, _⟩ | ⟨present, hpresent, htail⟩
  · refine .inl fun line hline ↦ habout.2 line ?_
    rw [hafter]
    exact List.mem_append_left _ hline
  · cases present with
    | nil =>
      refine .inl fun line hline ↦ habout.2 line ?_
      rwa [hpresent, List.append_nil] at hline
    | cons first present =>
      obtain ⟨rfl, _⟩ := List.cons.inj htail
      exact .inr ⟨after, last, present, hpresent, habout.2, hlast⟩

end Supervision
