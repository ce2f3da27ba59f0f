import Supervision.Restart
import Mathlib.Order.Monotone.Basic

/-!
# Restarts are counted in closed form

What a tracker answers to a call depends on its policy and the number of the call alone.  A limit is
used up by as many calls and stays used up, and where there is no limit the count stays at the
largest number there is.
-/

namespace Supervision

/-- The number of a restart, which stays at the largest there is. -/
def attempt (restarts : Nat) : UInt32 := .ofNat (min restarts 0xffffffff)

theorem toNat_attempt (restarts : Nat) : (attempt restarts).toNat = min restarts 0xffffffff := by
  have hlt : min restarts 0xffffffff < 2 ^ 32 := by omega
  exact UInt32.toNat_ofNat_of_lt' hlt

theorem countUp_attempt (restarts : Nat) :
    RestartTracker.countUp (attempt restarts) = attempt (restarts + 1) := by
  have hcount := toNat_attempt restarts
  apply UInt32.toNat_inj.mp
  rw [toNat_attempt]
  unfold RestartTracker.countUp
  by_cases hmax : (attempt restarts).toNat = 0xffffffff
  · rw [if_pos (UInt32.toNat_inj.mp hmax), hmax]
    omega
  · rw [if_neg fun h ↦ hmax (congrArg UInt32.toNat h), UInt32.toNat_add, UInt32.toNat_one]
    omega

/-- A limit is a number of restarts that can be counted. -/
theorem attempt_toNat (limit : UInt32) : attempt limit.toNat = limit := by
  have hlimit := limit.toNat_lt
  apply UInt32.toNat_inj.mp
  rw [toNat_attempt]
  omega

/-- The tracker of a policy after so many restarts. -/
def RestartTracker.after (policy : RestartPolicy) (restarts : Nat) : RestartTracker :=
  ⟨policy, attempt restarts⟩

/-! ## One call -/

namespace RestartTracker

theorem next_after_never (restarts : Nat) :
    (after .never restarts).next = (.done, after .never restarts) := rfl

theorem isExhausted_after (limit : UInt32) (delay : Span) (restarts : Nat) :
    (after (.limited limit delay) restarts).isExhausted = true ↔ limit.toNat ≤ restarts := by
  have hcount := toNat_attempt restarts
  have hlimit := limit.toNat_lt
  simp only [isExhausted, after, decide_eq_true_eq, UInt32.le_iff_toNat_le, hcount]
  omega

/-- Restarts are counted up to the limit, and from then on there is none. -/
theorem next_after_limited (limit : UInt32) (delay : Span) (restarts : Nat) :
    (after (.limited limit delay) restarts).next =
      if restarts < limit.toNat then
        (.retry (attempt (restarts + 1)) delay, after (.limited limit delay) (restarts + 1))
      else (.exhausted (attempt restarts), after (.limited limit delay) restarts) := by
  have hexhausted := isExhausted_after limit delay restarts
  have hnext : (after (.limited limit delay) restarts).next =
      if (after (.limited limit delay) restarts).isExhausted then
        (.exhausted (attempt restarts), after (.limited limit delay) restarts)
      else (.retry (countUp (attempt restarts)) delay,
        ⟨.limited limit delay, countUp (attempt restarts)⟩) := rfl
  rw [hnext, countUp_attempt]
  by_cases h : restarts < limit.toNat
  · have hnot : ¬(after (.limited limit delay) restarts).isExhausted = true := fun hle ↦
      Nat.not_lt_of_le (hexhausted.mp hle) h
    rw [if_neg hnot, if_pos h]
    rfl
  · rw [if_pos (hexhausted.mpr (Nat.le_of_not_lt h)), if_neg h]

/-- Without a limit there is always another restart. -/
theorem next_after_forever (delay : Span) (restarts : Nat) :
    (after (.forever delay) restarts).next =
      (.retry (attempt (restarts + 1)) delay, after (.forever delay) (restarts + 1)) := by
  have hnext : (after (.forever delay) restarts).next =
      (.retry (countUp (attempt restarts)) delay,
        ⟨.forever delay, countUp (attempt restarts)⟩) := rfl
  rw [hnext, countUp_attempt]
  rfl

end RestartTracker

/-! ## Many calls -/

def RestartDecision.isRetry : RestartDecision → Bool
  | .retry _ _ => true
  | _ => false

namespace RestartPolicy

/-- What a fresh tracker answers to a call, where the first call has the number one. -/
def answer (policy : RestartPolicy) (call : Nat) : RestartDecision :=
  match policy with
  | never => .done
  | limited limit delay =>
    if call ≤ limit.toNat then .retry (attempt call) delay else .exhausted limit
  | forever delay => .retry (attempt call) delay

/-- How many restarts a fresh tracker has counted after so many calls. -/
def counted (policy : RestartPolicy) (calls : Nat) : Nat :=
  match policy with
  | never => 0
  | limited limit _ => min calls limit.toNat
  | forever _ => min calls 0xffffffff

/-- A tracker never counts further than the largest number there is. -/
theorem toNat_attempt_counted (policy : RestartPolicy) (calls : Nat) :
    (attempt (policy.counted calls)).toNat = policy.counted calls := by
  rw [toNat_attempt]
  cases policy with
  | never => rfl
  | limited limit delay =>
    have hlimit := limit.toNat_lt
    simp only [counted]
    omega
  | forever delay =>
    simp only [counted]
    omega

theorem counted_mono (policy : RestartPolicy) : Monotone policy.counted := by
  intro calls more hle
  cases policy with
  | never => exact Nat.le_refl 0
  | limited limit delay =>
    simp only [counted]
    omega
  | forever delay =>
    simp only [counted]
    omega

/-- A limit of zero is none, and any other is the number of restarts. -/
theorem isRetry_answer_ofLimit (limit : UInt32) (delay : Span) (call : Nat) :
    ((ofLimit limit delay).answer call).isRetry = true ↔ limit = 0 ∨ call ≤ limit.toNat := by
  unfold ofLimit
  by_cases hzero : limit = 0
  · rw [if_pos hzero]
    exact iff_of_true rfl (.inl hzero)
  · rw [if_neg hzero, answer]
    by_cases hallowed : call ≤ limit.toNat
    · rw [if_pos hallowed]
      exact iff_of_true rfl (.inr hallowed)
    · rw [if_neg hallowed]
      exact iff_of_false nofun fun h ↦ h.elim hzero hallowed

/-- Of the answers to so many calls, those are another start that the limit allows. -/
theorem countP_isRetry_answers (limit : UInt32) (delay : Span) (calls : Nat) :
    ((List.range calls).map fun earlier ↦
        (ofLimit limit delay).answer (earlier + 1)).countP RestartDecision.isRetry =
      if limit = 0 then calls else min calls limit.toNat := by
  induction calls with
  | zero => simp
  | succ calls ih =>
    have hlast := isRetry_answer_ofLimit limit delay (calls + 1)
    rw [List.range_succ, List.map_append, List.countP_append, ih, List.map_singleton,
      List.countP_singleton]
    by_cases hzero : limit = 0
    · rw [if_pos hzero, if_pos hzero, if_pos (hlast.mpr (.inl hzero))]
    · rw [if_neg hzero, if_neg hzero]
      by_cases hallowed : calls + 1 ≤ limit.toNat
      · rw [if_pos (hlast.mpr (.inr hallowed))]
        omega
      · rw [if_neg fun h ↦ (hlast.mp h).elim hzero hallowed]
        omega

end RestartPolicy

namespace RestartTracker

/-- The answers to so many calls, one after another, and the tracker after them. -/
def consult (tracker : RestartTracker) : Nat → List RestartDecision × RestartTracker
  | 0 => ([], tracker)
  | calls + 1 =>
    let (answers, tracker) := tracker.consult calls
    let (answer, tracker) := tracker.next
    (answers ++ [answer], tracker)

/-- The count of a policy without a limit stays where it ends. -/
theorem after_forever_counted (delay : Span) (calls : Nat) :
    after (.forever delay) ((RestartPolicy.forever delay).counted calls) =
      after (.forever delay) calls := by
  have hcount : attempt (min calls 0xffffffff) = attempt calls := by
    simp [attempt]
  rw [after, RestartPolicy.counted, hcount, after]

/-- One more call, after so many. -/
theorem next_after_counted (policy : RestartPolicy) (calls : Nat) :
    (after policy (policy.counted calls)).next =
      (policy.answer (calls + 1), after policy (policy.counted (calls + 1))) := by
  cases policy with
  | never => exact next_after_never 0
  | limited limit delay =>
    by_cases h : calls < limit.toNat
    · have hcounted : (RestartPolicy.limited limit delay).counted calls = calls :=
        Nat.min_eq_left (Nat.le_of_lt h)
      have hmore : (RestartPolicy.limited limit delay).counted (calls + 1) = calls + 1 :=
        Nat.min_eq_left h
      have hanswer : (RestartPolicy.limited limit delay).answer (calls + 1) =
          .retry (attempt (calls + 1)) delay := if_pos h
      rw [hcounted, hmore, hanswer, next_after_limited, if_pos h]
    · have hspent (more : Nat) (hle : limit.toNat ≤ more) :
          (RestartPolicy.limited limit delay).counted more = limit.toNat := Nat.min_eq_right hle
      have hanswer : (RestartPolicy.limited limit delay).answer (calls + 1) = .exhausted limit :=
        if_neg h
      have hle : limit.toNat ≤ calls := Nat.le_of_not_lt h
      rw [hspent calls hle, hspent (calls + 1) (Nat.le_succ_of_le hle), hanswer,
        next_after_limited, if_neg (Nat.lt_irrefl _), attempt_toNat]
  | forever delay =>
    rw [after_forever_counted, after_forever_counted]
    exact next_after_forever delay calls

/-- The answers to any number of calls are told by the numbers of the calls alone. -/
theorem consult_start (policy : RestartPolicy) (calls : Nat) :
    (start policy).consult calls =
      ((List.range calls).map fun earlier ↦ policy.answer (earlier + 1),
        after policy (policy.counted calls)) := by
  induction calls with
  | zero => cases policy <;> simp [consult, start, after, attempt, RestartPolicy.counted]
  | succ calls ih =>
    rw [consult, ih]
    simp only [next_after_counted, List.range_succ, List.map_append, List.map_singleton]

/-- A tracker is exhausted once its limit is used up. -/
theorem isExhausted_after_counted (policy : RestartPolicy) (calls : Nat) :
    (after policy (policy.counted calls)).isExhausted = true ↔
      ∃ limit delay, policy = .limited limit delay ∧ limit.toNat ≤ calls := by
  cases policy with
  | never => simp [after, isExhausted]
  | limited limit delay =>
    have hlimit : (∃ other delay', RestartPolicy.limited limit delay = .limited other delay' ∧
        other.toNat ≤ calls) ↔ limit.toNat ≤ calls := by simp
    rw [isExhausted_after, hlimit, RestartPolicy.counted]
    omega
  | forever delay => simp [after, isExhausted]

/-- A fresh tracker answers every call as its policy does in closed form, and has counted as many
restarts: the count never goes down, ends at the limit or at the largest number there is, and is
exhausted exactly from as many calls on as the limit says.  Of a limit as it is written, zero allows
every restart, and any other number so many. -/
theorem answers_in_closed_form :
    (∀ (policy : RestartPolicy) (calls : Nat),
      ((start policy).consult calls).1 =
        (List.range calls).map (fun earlier ↦ policy.answer (earlier + 1)) ∧
      ((start policy).consult calls).2.policy = policy ∧
      ((start policy).consult calls).2.restarts.toNat = policy.counted calls ∧
      (((start policy).consult calls).2.isExhausted = true ↔
        ∃ limit delay, policy = .limited limit delay ∧ limit.toNat ≤ calls)) ∧
    (∀ policy : RestartPolicy,
      Monotone fun calls ↦ ((start policy).consult calls).2.restarts.toNat) ∧
    ∀ (limit : UInt32) (delay : Span) (calls : Nat),
      ((start (.ofLimit limit delay)).consult calls).1.countP RestartDecision.isRetry =
        if limit = 0 then calls else min calls limit.toNat := by
  refine ⟨fun policy calls ↦ ?_, fun policy ↦ ?_, fun limit delay calls ↦ ?_⟩
  · rw [consult_start]
    exact ⟨rfl, rfl, policy.toNat_attempt_counted calls, isExhausted_after_counted policy calls⟩
  · simp only [consult_start, after, RestartPolicy.toNat_attempt_counted]
    exact policy.counted_mono
  · rw [consult_start]
    exact RestartPolicy.countP_isRetry_answers limit delay calls

/-- What is exhausted stays so, and nothing more is counted. -/
example : (start (.limited 1 .zero)).consult 3 =
    ([.retry 1 .zero, .exhausted 1, .exhausted 1], ⟨.limited 1 .zero, 1⟩) := by
  decide

end RestartTracker

end Supervision
