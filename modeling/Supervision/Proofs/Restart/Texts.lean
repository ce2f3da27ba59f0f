import Supervision.Cli.Views
import Supervision.Process.Managed
import Supervision.Proofs.Admin.Messages
import Supervision.Proofs.Text.Spans

/-!
# Policies are told apart by their texts

A restart policy is shown as a text: by the statuses that clients are sent and in the table of a
configuration.  Different policies have different texts, so whoever reads one knows the policy, its
limit and its delay down to the nanosecond.
-/

namespace Supervision

namespace RestartPolicy

/-- The limit and the delay are read off the text of a limited policy. -/
theorem limited_text_injective {limit other : UInt32} {delay pause : Span}
    (h : (limited limit delay).text = (limited other pause).text) : limit = other ∧ delay = pause := by
  have hchars : (toString limit.toNat).toList ++ (" every " ++ delay.text).toList =
      (toString other.toNat).toList ++ (" every " ++ pause.text).toList := by
    have htext := congrArg String.toList h
    simpa only [text, String.append_assoc, String.toList_append, List.append_cancel_left_eq] using htext
  have hword (span : Span) : ∀ char ∈ (" every " ++ span.text).toList.head?, char.isDigit = false := by
    simp
  obtain ⟨hlimit, hdelay⟩ := Text.append_inj_of_kind Text.isDigit_of_mem_toString
    Text.isDigit_of_mem_toString (hword delay) (hword pause) hchars
  constructor
  · exact UInt32.toNat_inj.mp (Text.toList_toString_injective hlimit)
  · exact Span.text_injective ((String.append_right_inj _).mp (String.toList_inj.mp hdelay))

theorem forever_text_injective {delay pause : Span}
    (h : (forever delay).text = (forever pause).text) : delay = pause :=
  Span.text_injective ((String.append_right_inj _).mp h)

/-- The letter that the text of a policy begins with, by which its kind is told. -/
def initial : RestartPolicy → Char
  | never => 'n'
  | limited _ _ => 'u'
  | forever _ => 'f'

theorem head_text (policy : RestartPolicy) : policy.text.toList.head? = some policy.initial := by
  cases policy <;> simp [text, initial]

/-- The text of a policy tells its kind, its limit and its delay. -/
theorem text_injective {policy other : RestartPolicy} (h : policy.text = other.text) :
    policy = other := by
  have hinitial : policy.initial = other.initial := by
    have hhead := congrArg (fun text ↦ text.toList.head?) h
    simpa only [head_text, Option.some_inj] using hhead
  cases policy with
  | never =>
    cases other with
    | never => rfl
    | limited | forever => simp [initial] at hinitial
  | limited limit delay =>
    cases other with
    | limited other pause =>
      obtain ⟨rfl, rfl⟩ := limited_text_injective h
      rfl
    | never | forever => simp [initial] at hinitial
  | forever delay =>
    cases other with
    | forever pause => rw [forever_text_injective h]
    | never | limited => simp [initial] at hinitial

theorem text_eq_iff {policy other : RestartPolicy} : policy.text = other.text ↔ policy = other :=
  ⟨text_injective, congrArg text⟩

/-! ## Where the text is shown -/

/-- What a client reads of the policies of some processes that answer with their statuses. -/
theorem read_statuses (name : String) {processes : List Managed}
    (fit : ∀ managed ∈ processes, managed.status.CodeFits) :
    Admin.Response.read.read
        (Admin.Response.status name (processes.map Managed.status)).toJson.compact =
      .ok (.status name (processes.map Managed.status)) := by
  apply Json.Reader.Accepts.read_eq
  apply Admin.Response.accepts
  exact List.forall_mem_map.mpr fit

theorem lookup_checkRow (spec : ProcessSpec) :
    (Cli.checkHeader.zip (Cli.checkRow spec)).lookup "RESTART" = some spec.restart.text := rfl

/-- Two policies have the same text just if they are the same, since the delay is told exactly: so
many of the largest unit that it holds, with a fraction that ends in no zero.  So the policy of a
process is known from the status that a client reads, and from the row of a checked configuration. -/
theorem texts_tell_policies_apart :
    (∀ span : Span, ∃ unit whole fraction, span.Told unit whole fraction ∧
      span.text = Span.layout unit whole fraction) ∧
    (∀ policy other : RestartPolicy, policy.text = other.text ↔ policy = other) ∧
    (∀ name (processes : List Managed), (∀ managed ∈ processes, managed.status.CodeFits) →
      ∃ statuses, Admin.Response.read.read
          (Admin.Response.status name (processes.map Managed.status)).toJson.compact =
        .ok (.status name statuses) ∧
          ∀ (index : Nat) (policy : RestartPolicy),
            statuses[index]?.map ProcessStatus.restartPolicy = some policy.text ↔
              processes[index]?.map (fun managed ↦ managed.spec.restart) = some policy) ∧
    ∀ (spec : ProcessSpec) (policy : RestartPolicy),
      (Cli.checkHeader.zip (Cli.checkRow spec)).lookup "RESTART" = some policy.text ↔
        spec.restart = policy := by
  refine ⟨Span.text_told, fun policy other ↦ text_eq_iff, fun name processes fit ↦ ?_,
    fun spec policy ↦ ?_⟩
  · refine ⟨_, read_statuses name fit, fun index policy ↦ ?_⟩
    rw [List.getElem?_map, Option.map_map]
    cases processes[index]? with
    | none => exact iff_of_false nofun nofun
    | some managed =>
      rw [Option.map_some, Option.map_some, Option.some_inj, Option.some_inj]
      exact text_eq_iff
  · rw [lookup_checkRow, Option.some_inj]
    exact text_eq_iff

/-- A process that is to be restarted after little more than a second. -/
def sampleProcess : Managed :=
  .ofSpec ⟨"db", ⟨"run", [], .empty, none⟩, .interrupt, .limited 3 ⟨1050000000⟩⟩ 2 .pipe

theorem texts_tell_policies_apart_sample :
    (∀ managed ∈ [sampleProcess], managed.status.CodeFits) ∧
      ∃ statuses, Admin.Response.read.read
          (Admin.Response.status "main" ([sampleProcess].map Managed.status)).toJson.compact =
        .ok (.status "main" statuses) ∧
          statuses[0]?.map ProcessStatus.restartPolicy = some "up to 3 every 1.05s" := by
  have hfit : ∀ managed ∈ [sampleProcess], managed.status.CodeFits := by
    simp [sampleProcess, Managed.ofSpec, Managed.status, ProcessStatus.CodeFits]
  obtain ⟨-, -, hread, -⟩ := texts_tell_policies_apart
  obtain ⟨statuses, hstatuses, hpolicies⟩ := hread "main" [sampleProcess] hfit
  refine ⟨hfit, statuses, hstatuses, ?_⟩
  exact (hpolicies 0 (.limited 3 ⟨1050000000⟩)).mpr rfl

end RestartPolicy

end Supervision
