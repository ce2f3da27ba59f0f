import Supervision.Admin.Message
import Supervision.Proofs.Json.Typed

/-!
# Messages are read as they were written

Every request and every response is read back from its document.  Texts may hold any characters; exit
codes are words of the system, and only such a code can be read.
-/

namespace Supervision

open Json Json.Reader

/-- The exit code, if there is one, is a signed word. -/
def ProcessStatus.CodeFits (status : ProcessStatus) : Prop :=
  ∀ code ∈ status.lastExitCode, -0x80000000 ≤ code ∧ code ≤ 0x7fffffff

theorem ProcessState.accepts (state : ProcessState) :
    ProcessStatus.readState.Accepts (.text state.name) state := by
  cases state <;> exact Accepts.variant_plain rfl

/-- A status reads back if its exit code is a signed word. -/
theorem ProcessStatus.accepts {status : ProcessStatus} (fits : status.CodeFits) :
    ProcessStatus.read.Accepts status.toJson status := by
  have hpid : (optional word32).Accepts (orNull status.pid fun pid ↦ .number pid.toNat) status.pid := by
    cases status.pid with
    | none => exact .optional_null _
    | some pid => exact .optional_some (.word32 pid) nofun
  have hcode : (optional integer32).Accepts (orNull status.lastExitCode .number)
      status.lastExitCode := by
    cases h : status.lastExitCode with
    | none => exact .optional_null _
    | some code =>
      obtain ⟨lower, upper⟩ := fits code h
      exact .optional_some (.integer32 lower upper) nofun
  let draft : ProcessStatus.Draft :=
    { name := some status.name
      state := some status.state
      pid := some status.pid
      restarts := some status.restarts
      restartPolicy := some status.restartPolicy
      lastExitCode := some status.lastExitCode }
  refine Accepts.finish draft (Accepts.record ?_ ?_) (.pure status)
  · apply Fills.cons rfl rfl ((Accepts.text status.name).map _)
    apply Fills.cons rfl rfl (status.state.accepts.map _)
    apply Fills.cons rfl rfl (hpid.map _)
    apply Fills.cons rfl rfl ((Accepts.word32 status.restarts).map _)
    apply Fills.cons rfl rfl ((Accepts.text status.restartPolicy).map _)
    apply Fills.cons rfl rfl (hcode.map _)
    exact .nil _
  · simp [Member.required, Member.nullable, draft]

namespace Admin

/-- Every request reads back. -/
theorem Request.accepts (request : Request) : Request.read.Accepts request.toJson request := by
  cases request <;> exact Accepts.variant_plain rfl

def Response.statuses : Response → List ProcessStatus
  | status _ processes => processes
  | _ => []

/-- Every exit code in a response is a signed word. -/
def Response.CodesFit (response : Response) : Prop := ∀ status ∈ response.statuses, status.CodeFits

theorem Response.accepts_message (expected message : String) :
    (readMessage expected).Accepts (.object [("message", .text message)]) message := by
  refine Accepts.finish (some message) (Accepts.record ?_ ?_) (.pure message)
  · apply Fills.cons rfl rfl ((Accepts.text message).map _)
    exact .nil _
  · simp [Member.required]

theorem Response.accepts_status (supervisor : String) {processes : List ProcessStatus}
    (fit : ∀ status ∈ processes, status.CodeFits) :
    readStatus.Accepts
      (.object [("supervisor", .text supervisor),
        ("processes", .list (processes.map ProcessStatus.toJson))])
      (Response.status supervisor processes) := by
  have hprocesses : (Reader.list ProcessStatus.read).Accepts
      (.list (processes.map ProcessStatus.toJson)) processes := by
    apply Accepts.list
    rw [List.forall₂_map_left_iff, List.forall₂_same]
    exact fun status hmem ↦ ProcessStatus.accepts (fit status hmem)
  refine Accepts.finish (⟨some supervisor, some processes⟩ : StatusDraft)
    (Accepts.record ?_ ?_) (.pure (Response.status supervisor processes))
  · apply Fills.cons rfl rfl ((Accepts.text supervisor).map _)
    apply Fills.cons rfl rfl (hprocesses.map _)
    exact .nil _
  · simp [Member.required]

/-- A response reads back if all exit codes in it are signed words. -/
theorem Response.accepts {response : Response} (fit : response.CodesFit) :
    Response.read.Accepts response.toJson response := by
  cases response with
  | pong => exact Accepts.variant_plain rfl
  | status supervisor processes => exact Accepts.variant_record rfl (accepts_status supervisor fit)
  | success message =>
    exact Accepts.variant_record rfl ((accepts_message _ message).map success)
  | failure message =>
    exact Accepts.variant_record rfl ((accepts_message _ message).map failure)

end Admin

end Supervision
