import Mathlib.Logic.Relation
import Supervision.Proofs.Admin.Listening
import Supervision.Proofs.Shutdown.Calls

/-!
# Clients of one supervisor

Handling is the only way in which connections meet.  A supervisor that has begun to stop never goes
back, so of all the requests to stop that are handled at most the first finds it running, and nothing
but these requests is ever counted.
-/

namespace Supervision

/-- Whatever move a supervisor makes, what an admin surface sees of it goes on, and no more. -/
theorem System.control_of_advance {system : System} {move : Move} {step : SystemStep}
    (h : system.advance move = some step) :
    ∃ processes stops, step.system.control = system.control.goOn processes stops := by
  have hmoved := System.moved_of_advance h
  have hname : step.system.name = system.name := by
    cases hmoved <;> rfl
  have hstopping : step.system.stopping = (system.stopping || step.system.stopping) := by
    cases hasked : system.stopping with
    | false => rfl
    | true => exact hmoved.stopping hasked
  refine ⟨step.system.statuses, step.system.stopping, ?_⟩
  rw [Admin.Control.goOn, System.control, System.control, hname]
  exact congrArg (Admin.Control.mk system.name step.system.statuses · 0) hstopping

namespace Admin

/-! ## One request -/

namespace Control

variable (control : Control)

theorem handle_stop : control.handle .stop =
    (.success (if control.stopping then "already stopping" else "stopping " ++ control.name),
      control.requestStop) := by
  obtain ⟨name, processes, stopping, stopRequests⟩ := control
  cases stopping <;> rfl

/-- A request that is not one to stop changes nothing. -/
theorem handle_of_ne_stop {request : Request} (other : request ≠ .stop) :
    (control.handle request).2 = control := by
  cases request with
  | ping | status => rfl
  | stop => exact absurd rfl other

@[simp]
theorem name_handle (request : Request) : (control.handle request).2.name = control.name := by
  cases request with
  | ping | status => rfl
  | stop =>
    rw [handle_stop]
    rfl

theorem stopping_handle (request : Request) :
    (control.handle request).2.stopping = (control.stopping || decide (request = .stop)) := by
  cases request with
  | ping | status => exact (Bool.or_false _).symm
  | stop =>
    rw [handle_stop]
    exact (Bool.or_true _).symm

end Control

theorem stopping_ne_already (name : String) : "stopping " ++ name ≠ "already stopping" := by
  intro h
  have hchars := congrArg String.toList h
  rw [String.toList_append] at hchars
  exact absurd (List.cons.inj hchars).1 (by decide)

namespace Handling

variable {handling : Handling}

/-- A request to stop is answered as the one that begins it if no stop was asked for before. -/
theorem response_eq_stopping_iff (stop : handling.request = .stop) :
    handling.response = .success ("stopping " ++ handling.control.name) ↔
      handling.control.stopping = false := by
  rw [response, stop, Control.handle_stop]
  cases handling.control.stopping with
  | false => simp
  | true => simp [(stopping_ne_already _).symm]

/-- A request to stop is told that it comes late if a stop was asked for before. -/
theorem response_eq_already_iff (stop : handling.request = .stop) :
    handling.response = .success "already stopping" ↔ handling.control.stopping = true := by
  rw [response, stop, Control.handle_stop]
  cases handling.control.stopping with
  | false => simp [stopping_ne_already]
  | true => simp

end Handling

namespace Listener

/-! ## What one move does to the supervisor -/

variable {control : Control} {listener after : Listener} {move : ListenerMove}
  {past : List Transition}

theorem Moved.name (h : Moved listener move after) : after.control.name = listener.control.name := by
  cases h with
  | handled => exact Control.name_handle _ _
  | _ => rfl

/-- A stop is never taken back. -/
theorem Moved.stopping (h : Moved listener move after) (stopping : listener.control.stopping = true) :
    after.control.stopping = true := by
  cases h with
  | handled => exact (Control.stopping_handle _ _).trans (by rw [stopping, Bool.true_or])
  | wentOn processes stops => exact (congrArg (· || stops) stopping).trans (Bool.true_or stops)
  | accepted | received | sent => exact stopping

/-- The supervisor after a move in which a request is handled is what the request makes of it. -/
theorem Moved.control_of_handling {handling : Handling} (h : Moved listener move after)
    (heard : Transition.handling? ⟨listener, move, after⟩ = some handling) :
    after.control = (handling.control.handle handling.request).2 := by
  obtain ⟨rfl, hcontrol, connection, present, ready⟩ := move_of_handling? heard
  cases h with
  | handled here phase =>
    cases present.symm.trans here
    cases ready.symm.trans phase
    rw [hcontrol]
    rfl

/-- In any other move, nothing happens to it but what it does by itself. -/
theorem Moved.control_of_none (h : Moved listener move after)
    (unheard : Transition.handling? ⟨listener, move, after⟩ = none) :
    after.control = listener.control ∨
      ∃ processes stops, move = .goOn processes stops ∧
        after.control = listener.control.goOn processes stops := by
  cases h with
  | accepted | received | sent => exact .inl rfl
  | wentOn processes stops => exact .inr ⟨processes, stops, rfl, rfl⟩
  | handled present ready => simp [Transition.handling?, present, ready] at unheard

/-- The requests to stop that were handled, in order. -/
def stops (past : List Transition) : List Handling :=
  (handlings past).filter (·.request = .stop)

/-- What a move does to the supervisor, and whether it handles a request to stop. -/
inductive Effect (past : List Transition) (listener : Listener) (move : ListenerMove)
    (after : Listener) : Prop
  | none (quiet : stops (past ++ [⟨listener, move, after⟩]) = stops past)
      (same : after.control = listener.control)
  | goOn (processes : List ProcessStatus) (begins : Bool)
      (quiet : stops (past ++ [⟨listener, move, after⟩]) = stops past)
      (own : move = .goOn processes begins)
      (changed : after.control = listener.control.goOn processes begins)
  | stop {handling : Handling}
      (heard : stops (past ++ [⟨listener, move, after⟩]) = stops past ++ [handling])
      (at_ : handling.control = listener.control)
      (stopped : after.control = listener.control.requestStop)

/-- Every move has one of these effects, since no request but one to stop changes the supervisor. -/
theorem Moved.effect (h : Moved listener move after) (past : List Transition) :
    Effect past listener move after := by
  cases heard : Transition.handling? ⟨listener, move, after⟩ with
  | none =>
    have hquiet : stops (past ++ [⟨listener, move, after⟩]) = stops past := by
      rw [stops, handlings_append_singleton, heard, Option.toList_none, List.append_nil, stops]
    rcases h.control_of_none heard with hsame | ⟨processes, begins, hmove, hchanged⟩
    · exact .none hquiet hsame
    · exact .goOn processes begins hquiet hmove hchanged
  | some handling =>
    have hstops : stops (past ++ [⟨listener, move, after⟩]) =
        stops past ++ [handling].filter (·.request = .stop) := by
      rw [stops, handlings_append_singleton, heard, Option.toList_some, List.filter_append, stops]
    obtain ⟨_, hcontrol, _⟩ := move_of_handling? heard
    have hafter := h.control_of_handling heard
    rw [hcontrol] at hafter
    by_cases hstop : handling.request = .stop
    · rw [List.filter_cons_of_pos (by simpa using hstop), List.filter_nil] at hstops
      rw [hstop, Control.handle_stop] at hafter
      exact .stop hstops hcontrol hafter
    · rw [List.filter_cons_of_neg (by simpa using hstop), List.filter_nil, List.append_nil] at hstops
      rw [Control.handle_of_ne_stop _ hstop] at hafter
      exact .none hstops hafter

/-- What the moves so far did to the supervisor that all connections share. -/
structure Shared (control : Control) (past : List Transition) (listener : Listener) : Prop where
  name : listener.control.name = control.name
  names : ∀ handling ∈ handlings past, handling.control.name = control.name
  forward : past.Pairwise fun earlier later ↦
    earlier.before.control.stopping = true → later.before.control.stopping = true
  kept : ∀ transition ∈ past, transition.before.control.stopping = true →
    listener.control.stopping = true
  asked : ∀ handling ∈ stops past, listener.control.stopping = true
  later : (stops past).Pairwise fun _ handling ↦ handling.control.stopping = true
  counted : listener.control.stopRequests = control.stopRequests + (stops past).length
  made : ∀ transition ∈ past, ∀ handling ∈ transition.handling?,
    transition.step.control = (handling.control.handle handling.request).2

theorem shared_start (control : Control) : Shared control [] (start control) where
  name := rfl
  names := nofun
  forward := .nil
  kept := nofun
  asked := nofun
  later := .nil
  counted := rfl
  made := nofun

/-- One move keeps what is known of the supervisor that all connections share. -/
theorem Shared.advance (shared : Shared control past listener) (h : Moved listener move after) :
    Shared control (past ++ [⟨listener, move, after⟩]) after := by
  have heffect := h.effect past
  constructor
  case name => exact h.name.trans shared.name
  case names =>
    rw [handlings_append_singleton]
    refine List.forall_mem_append.mpr ⟨shared.names, fun handling hmem ↦ ?_⟩
    obtain ⟨_, hcontrol, _⟩ := move_of_handling? (Option.mem_toList.mp hmem)
    rw [hcontrol]
    exact shared.name
  case forward =>
    refine List.pairwise_append.mpr ⟨shared.forward, List.pairwise_singleton _ _, ?_⟩
    intro earlier hearlier last hlast
    rw [List.mem_singleton.mp hlast]
    exact shared.kept earlier hearlier
  case kept =>
    refine List.forall_mem_append.mpr ⟨fun transition hmem stopping ↦ ?_, ?_⟩
    · exact h.stopping (shared.kept transition hmem stopping)
    · exact List.forall_mem_singleton.mpr h.stopping
  case asked =>
    cases heffect with
    | none quiet _ | goOn _ _ quiet _ _ =>
      rw [quiet]
      exact fun handling hmem ↦ h.stopping (shared.asked handling hmem)
    | stop _ _ stopped =>
      rw [stopped]
      exact fun _ _ ↦ rfl
  case later =>
    cases heffect with
    | none quiet _ | goOn _ _ quiet _ _ =>
      rw [quiet]
      exact shared.later
    | stop heard at_ _ =>
      rw [heard]
      refine List.pairwise_append.mpr ⟨shared.later, List.pairwise_singleton _ _, ?_⟩
      intro earlier hearlier last hlast
      rw [List.mem_singleton.mp hlast, at_]
      exact shared.asked earlier hearlier
  case counted =>
    cases heffect with
    | none quiet same =>
      rw [quiet, same]
      exact shared.counted
    | goOn _ _ quiet _ changed =>
      rw [quiet, changed]
      exact shared.counted
    | stop heard _ stopped =>
      rw [heard, stopped, List.length_append, ← Nat.add_assoc, ← shared.counted]
      rfl
  case made =>
    refine List.forall_mem_append.mpr ⟨shared.made, List.forall_mem_singleton.mpr ?_⟩
    exact fun handling heard ↦ h.control_of_handling heard

theorem Shared.momentary (shared : Shared control past listener) :
    ∀ transition ∈ past, ∀ handling ∈ transition.handling?,
      handling.control = transition.before.control ∧
        transition.step.control = (handling.control.handle handling.request).2 := by
  intro transition hmem handling heard
  exact ⟨(move_of_handling? heard).2.1, shared.made transition hmem handling heard⟩

theorem Shared.answers (shared : Shared control past listener) : ∀ handling ∈ stops past,
    (handling.response = .success ("stopping " ++ control.name) ↔
      handling.control.stopping = false) ∧
    (handling.response = .success "already stopping" ↔ handling.control.stopping = true) := by
  intro handling hmem
  obtain ⟨hhandled, hstop⟩ := List.mem_filter.mp hmem
  have hrequest : handling.request = .stop := of_decide_eq_true hstop
  rw [← shared.names handling hhandled]
  exact ⟨Handling.response_eq_stopping_iff hrequest, Handling.response_eq_already_iff hrequest⟩

/-- A supervisor that is stopped by nothing but requests: it runs until the first of them, which finds
it running. -/
structure StoppedByRequests (past : List Transition) (listener : Listener) : Prop where
  running : stops past = [] → listener.control.stopping = false
  first : ∀ first ∈ (stops past).head?, first.control.stopping = false

/-- A supervisor that does not begin to stop by itself is stopped by requests only. -/
theorem StoppedByRequests.advance (stopped : StoppedByRequests past listener)
    (h : Moved listener move after) (quiet : ∀ processes, move ≠ .goOn processes true) :
    StoppedByRequests (past ++ [⟨listener, move, after⟩]) after := by
  cases h.effect past with
  | none hquiet same =>
    constructor
    · rw [hquiet, same]
      exact stopped.running
    · rw [hquiet]
      exact stopped.first
  | goOn processes begins hquiet own changed =>
    have hbegins : begins = false := by
      cases begins with
      | false => rfl
      | true => exact absurd own (quiet processes)
    constructor
    · rw [hquiet, changed, hbegins]
      exact fun hnone ↦ (Bool.or_false _).trans (stopped.running hnone)
    · rw [hquiet]
      exact stopped.first
  | stop heard at_ _ =>
    constructor
    · rw [heard]
      exact fun hnone ↦ absurd hnone (List.append_ne_nil_of_right_ne_nil _ (List.cons_ne_nil _ _))
    · rw [heard]
      cases hstops : stops past with
      | nil =>
        refine fun first hfirst ↦ ?_
        cases hfirst
        rw [at_]
        exact stopped.running hstops
      | cons earliest others =>
        have hfirst := stopped.first
        rw [hstops] at hfirst
        exact hfirst

/-! ## Runs -/

/-- What holds after every run. -/
structure Consistent (control : Control) (past : List Transition) (listener : Listener) : Prop where
  lengths : (streams past).length = listener.connections.length
  account : ∀ index, Account past listener index
  shared : Shared control past listener
  requests : control.stopping = false →
    (∀ transition ∈ past, ∀ processes, transition.move ≠ .goOn processes true) →
      StoppedByRequests past listener

theorem consistent_start (control : Control) : Consistent control [] (start control) where
  lengths := rfl
  account _ := .never rfl rfl rfl rfl
  shared := shared_start control
  requests running _ := ⟨fun _ ↦ running, nofun⟩

theorem Consistent.advance (consistent : Consistent control past listener)
    (made : listener.advance move = some after) :
    Consistent control (past ++ [⟨listener, move, after⟩]) after := by
  have hmoved := moved_of_advance made
  refine ⟨hmoved.lengths consistent.lengths,
    fun index ↦ hmoved.account consistent.lengths (consistent.account index),
    consistent.shared.advance hmoved, fun running quiet ↦ ?_⟩
  obtain ⟨hpast, hlast⟩ := List.forall_mem_append.mp quiet
  have hstopped := consistent.requests running hpast
  exact hstopped.advance hmoved (List.forall_mem_singleton.mp hlast)

/-- How clients fare whose moves came between each other in a run. -/
structure Interleaved (control : Control) (past : List Transition) (listener : Listener) : Prop where
  /-- Each connection answers its own requests, in their order and once each. -/
  connections : ∀ index stream, (streams past)[index]? = some stream →
    ∃ connection, listener.connections[index]? = some connection ∧
      Answering stream (handlingsOf index past) connection
  /-- If a client sends just these requests and every response fits, then each has been answered by one
  frame when its connection has ended. -/
  complete : ∀ index stream requests connection failure, (streams past)[index]? = some stream →
    stream.flatten = (requests.flatMap fun request ↦ framed request.toJson.compact) →
      listener.connections[index]? = some connection → connection.phase = .ended failure →
        (∀ handling ∈ handlingsOf index past, handling.response.Fits) →
          (handlingsOf index past).map Handling.request = requests ∧
            connection.frames = (handlingsOf index past).map Handling.frame ∧ failure = none
  /-- No connection is held up before it has ended, -/
  goes_on : ∀ index connection, listener.connections[index]? = some connection →
    (∀ failure, connection.phase ≠ .ended failure) →
      ∃ move after, move.connection? = some index ∧ listener.advance move = some after
  /-- and none goes on forever. -/
  ends : ∀ index stream, (streams past)[index]? = some stream →
    (movesOf index past).length ≤ 3 * (receiveEach Request.read stream).1.length + 1
  /-- A request is handled by the supervisor as it is at that moment. -/
  momentary : ∀ transition ∈ past, ∀ handling ∈ transition.handling?,
    handling.control = transition.before.control ∧
      transition.step.control = (handling.control.handle handling.request).2
  /-- What is not a request to stop changes nothing. -/
  unchanged : ∀ transition ∈ past, ∀ handling ∈ transition.handling?, handling.request ≠ .stop →
    transition.step.control = transition.before.control
  /-- A supervisor that stops goes on stopping. -/
  forward : past.Pairwise fun earlier later ↦
    earlier.before.control.stopping = true → later.before.control.stopping = true
  kept : ∀ transition ∈ past, transition.before.control.stopping = true →
    listener.control.stopping = true
  /-- Just who finds it running is told that it stops now. -/
  answers : ∀ handling ∈ stops past,
    (handling.response = .success ("stopping " ++ control.name) ↔
      handling.control.stopping = false) ∧
    (handling.response = .success "already stopping" ↔ handling.control.stopping = true)
  /-- Nobody does after the first. -/
  later : (stops past).Pairwise fun _ handling ↦ handling.response = .success "already stopping"
  /-- The first does, if nothing else stops the supervisor. -/
  first : control.stopping = false →
    (∀ transition ∈ past, ∀ processes, transition.move ≠ .goOn processes true) →
      ∀ handling ∈ (stops past).head?, handling.response = .success ("stopping " ++ control.name)
  /-- A stop is requested once for each. -/
  counted : listener.control.stopRequests = control.stopRequests + (stops past).length

/-- What is kept by every move tells how the clients fare. -/
theorem Consistent.interleaved (consistent : Consistent control past listener) :
    Interleaved control past listener := by
  have hshared := consistent.shared
  have hmomentary := hshared.momentary
  have hanswers := hshared.answers
  constructor
  case connections =>
    intro index stream taken
    obtain ⟨connection, present, answering, _⟩ := (consistent.account index).of_taken taken
    exact ⟨connection, present, answering⟩
  case complete =>
    intro index stream requests connection failure taken sent present ended fit
    obtain ⟨_, there, answering, _⟩ := (consistent.account index).of_taken taken
    cases there.symm.trans present
    have hall := answering.received_of_ended ended fit
    rw [receiveEach_requests sent] at hall
    obtain ⟨⟨hrequests, hfailure⟩, hframes⟩ := hall.imp_left Prod.mk.inj
    exact ⟨hrequests.symm, hframes, hfailure.symm⟩
  case goes_on =>
    intro index connection present unended
    exact exists_move present unended
  case ends =>
    intro index stream taken
    obtain ⟨_, _, _, bounded⟩ := (consistent.account index).of_taken taken
    exact Nat.le_trans (Nat.le_add_right _ _) bounded
  case momentary => exact hmomentary
  case unchanged =>
    intro transition hmem handling heard hother
    obtain ⟨hbefore, hafter⟩ := hmomentary transition hmem handling heard
    rw [hafter, Control.handle_of_ne_stop _ hother, hbefore]
  case forward => exact hshared.forward
  case kept => exact hshared.kept
  case answers => exact hanswers
  case later =>
    refine hshared.later.imp_of_mem fun _ hmem hstopping ↦ ?_
    exact (hanswers _ hmem).2.mpr hstopping
  case first =>
    intro running quiet handling hfirst
    have hmem : handling ∈ stops past := List.mem_of_mem_head? hfirst
    exact (hanswers handling hmem).1.mpr ((consistent.requests running quiet).first handling hfirst)
  case counted => exact hshared.counted

/-- However the moves of clients come between each other, each is answered as if it were alone, but
for what the others make of the supervisor, and only one of them is told that it stops. -/
theorem clients_interleave {control : Control} {moves : List ListenerMove} {past : List Transition}
    {listener : Listener} (run : (start control).follow moves = some (past, listener)) :
    Interleaved control past listener := by
  have hconsistent : Consistent control past listener :=
    Trace.keeps_of_follow (motive := fun _ past listener ↦ Consistent control past listener) run
      (consistent_start control) fun _ made consistent ↦ consistent.advance made
  exact hconsistent.interleaved

/-- Two clients ask for a stop at the same time, and the second is handled first. -/
def bothStop : List ListenerMove :=
  let pieces := [framed Request.stop.toJson.compact]
  [.accept pieces, .accept pieces, .receive 0, .receive 1, .handle 1, .handle 0, .send 0, .receive 0,
    .send 1, .receive 1]

/-- The client that is handled first begins the stop, though it was taken on second. -/
theorem clients_interleave_both : ∃ past listener,
    (start ⟨"site", [], false, 0⟩).follow bothStop = some (past, listener) ∧
      listener.connections.map Connection.frames =
        [[framed (Response.success "already stopping").toJson.compact],
          [framed (Response.success "stopping site").toJson.compact]] ∧
        Interleaved ⟨"site", [], false, 0⟩ past listener := by
  obtain ⟨rest, hreceive, hrest⟩ := receive_request .stop []
  rw [List.append_nil] at hreceive
  have hend : receive Request.read rest = .ended := Stops.receive (.closed (by decide)) hrest
  have halready : (Response.success "already stopping").Fits := by decide +kernel
  have hstopping : (Response.success "stopping site").Fits := by decide +kernel
  have hask {listener : Listener} {index : Nat} (present : listener.connections[index]? =
      some (.accepted [framed Request.stop.toJson.compact])) :
      listener.advance (.receive index) =
        some (listener.setConnection index ⟨rest, .handling .stop, []⟩) := by
    rw [advance_receive present rfl, Connection.afterReceive, Connection.accepted, hreceive]
  have hsend {listener : Listener} {index : Nat} {response : Response} (fits : response.Fits)
      (present : listener.connections[index]? = some ⟨rest, .sending response, []⟩) :
      listener.advance (.send index) = some
        (listener.setConnection index ⟨rest, .receiving, [framed response.toJson.compact]⟩) := by
    rw [advance_send present rfl, Connection.afterSend_of_fits fits]
    rfl
  have hclose {listener : Listener} {index : Nat} {frames : List Bytes}
      (present : listener.connections[index]? = some ⟨rest, .receiving, frames⟩) :
      listener.advance (.receive index) =
        some (listener.setConnection index ⟨rest, .ended none, frames⟩) := by
    rw [advance_receive present rfl, Connection.afterReceive, hend]
  have run : ∃ past, (start ⟨"site", [], false, 0⟩).follow bothStop =
      some (past, ⟨⟨"site", [], true, 2⟩,
        [⟨rest, .ended none, [framed (Response.success "already stopping").toJson.compact]⟩,
          ⟨rest, .ended none, [framed (Response.success "stopping site").toJson.compact]⟩]⟩) := by
    refine Trace.exists_follow_cons rfl (Trace.exists_follow_cons rfl ?_)
    refine Trace.exists_follow_cons (hask rfl) (Trace.exists_follow_cons (hask rfl) ?_)
    refine Trace.exists_follow_cons (advance_handle rfl rfl) ?_
    refine Trace.exists_follow_cons (advance_handle rfl rfl) ?_
    refine Trace.exists_follow_cons (hsend halready rfl) (Trace.exists_follow_cons (hclose rfl) ?_)
    refine Trace.exists_follow_cons (hsend hstopping rfl) ?_
    exact Trace.exists_follow_cons (hclose rfl) ⟨[], rfl⟩
  obtain ⟨past, run⟩ := run
  exact ⟨past, _, run, rfl, clients_interleave run⟩

/-! ## A response that is too large -/

/-- A status names the supervisor in full. -/
theorem length_status_le (supervisor : String) (processes : List ProcessStatus) :
    (Text.Utf8.encode supervisor).length <
      (Response.status supervisor processes).toJson.compact.length := by
  have hescaped (bytes : Bytes) : bytes.length ≤ (bytes.flatMap Json.escapeByte).length := by
    induction bytes with
    | nil => exact Nat.le_refl _
    | cons byte bytes ih =>
      have hbyte : 0 < (Json.escapeByte byte).length := by
        rcases Json.escapeByte_cases byte with ⟨hself, _⟩ | ⟨tail, htail, _⟩
        · rw [hself]
          exact Nat.one_pos
        · rw [htail]
          exact Nat.succ_pos _
      rw [List.flatMap_cons, List.length_append, List.length_cons]
      omega
  have hname := hescaped (Text.Utf8.encode supervisor)
  simp only [Response.toJson, Json.compact, Json.compactMembers, Json.separated, Json.writeString,
    List.length_append, List.length_cons]
  omega

/-- A supervisor whose name alone fills a frame. -/
def overlong : Control := ⟨String.ofList (List.replicate maxFrameLength 'x'), [], false, 0⟩

/-- A status holds the name of the supervisor, which alone fills the frame. -/
theorem overlong_status_large : ¬ (overlong.handle .status).1.Fits := by
  have hname : (Text.Utf8.encode overlong.name).length = maxFrameLength := by
    rw [overlong, Text.Utf8.encode_ofList, List.flatMap_replicate]
    simp [show String.utf8EncodeChar 'x' = [0x78] from rfl]
  have hless := length_status_le overlong.name []
  rw [hname] at hless
  exact Nat.not_le.mpr hless

/-- It is asked for its status, and the connection ends without a response. -/
theorem status_withheld : ∃ past listener,
    (start overlong).follow
      [.accept [framed Request.status.toJson.compact], .receive 0, .handle 0, .send 0] =
        some (past, listener) ∧
      (handlingsOf 0 past).map Handling.request = [.status] ∧
        listener.connections.map Connection.frames = [[]] ∧
          ∀ move after, move.connection? = some 0 → listener.advance move ≠ some after := by
  obtain ⟨rest, hreceive, _⟩ := receive_request .status []
  rw [List.append_nil] at hreceive
  let ended : Listener := ⟨overlong, [⟨rest, .ended (some tooLarge), []⟩]⟩
  have run : ∃ past,
      (start overlong).follow
        [.accept [framed Request.status.toJson.compact], .receive 0, .handle 0, .send 0] =
          some (past, ended) ∧ (handlingsOf 0 past).map Handling.request = [.status] := by
    simp [Trace.follow, start, advance, setConnection, Connection.accepted, Connection.afterReceive,
      hreceive, Connection.afterSend_of_not_fits overlong_status_large, Control.handle_of_ne_stop,
      handlingsOf, handlings, ended]
    exact ⟨_, rfl, rfl⟩
  obtain ⟨past, run, handled⟩ := run
  refine ⟨past, ended, run, handled, rfl, fun move after own ↦ ?_⟩
  cases move with
  | accept | goOn => cases own
  | receive | handle | send =>
    obtain rfl := Option.some.inj own
    simp [advance, ended]

/-! ## A connection that is alone -/

/-- Only one connection moves. -/
abbrev Alone (index : Nat) : Listener → Listener → Prop :=
  Relation.ReflTransGen fun before after ↦
    ∃ move, ListenerMove.connection? move = some index ∧ before.advance move = some after

/-- A request is received, handled and answered. -/
theorem alone_answer {index : Nat} {pieces rest frames : List Bytes} {request : Request}
    (ready : listener.connections[index]? = some ⟨pieces, .receiving, frames⟩)
    (message : receive Request.read pieces = .message request rest) :
    listener.Alone index
      ({ listener with control := (listener.control.handle request).2 }.setConnection index
        (Connection.afterSend ⟨rest, .sending (listener.control.handle request).1, frames⟩
          (listener.control.handle request).1)) := by
  have hpresent (connection : Connection) := getElem?_set_of_mem ready connection
  let received : Listener := listener.setConnection index ⟨rest, .handling request, frames⟩
  have hreceived : listener.advance (.receive index) = some received := by
    have h := advance_receive ready rfl
    rwa [Connection.afterReceive_message message] at h
  let handled : Listener := { listener with control := (listener.control.handle request).2 }.setConnection
    index ⟨rest, .sending (listener.control.handle request).1, frames⟩
  have hhandled : received.advance (.handle index) = some handled := by
    have h : received.advance (.handle index) = some _ := advance_handle (hpresent _) rfl
    simpa only [received, handled, setConnection, List.set_set] using h
  have hsent : handled.advance (.send index) = some _ := advance_send (hpresent _) rfl
  simp only [handled, setConnection, List.set_set] at hsent
  exact .head ⟨_, rfl, hreceived⟩ (.head ⟨_, rfl, hhandled⟩ (.single ⟨_, rfl, hsent⟩))

theorem serve_of_fits {control : Control} {pieces rest : List Bytes} {request : Request}
    (h : receive Request.read pieces = .message request rest)
    (fits : (control.handle request).1.Fits) :
    Control.surface.serve control pieces =
      let served := Control.surface.serve (control.handle request).2 rest
      { served with frames := framed (control.handle request).1.toJson.compact :: served.frames } := by
  have hsend : ((Control.surface.handle request).run control).1.send = _ := Response.send_of_fits fits
  rw [Surface.serve, serveWith_message h, hsend]
  rfl

theorem serve_of_not_fits {control : Control} {pieces rest : List Bytes} {request : Request}
    (h : receive Request.read pieces = .message request rest)
    (large : ¬(control.handle request).1.Fits) :
    Control.surface.serve control pieces = ⟨[], some tooLarge, (control.handle request).2⟩ := by
  have hsend : ((Control.surface.handle request).run control).1.send = _ :=
    Response.send_of_not_fits large
  rw [Surface.serve, serveWith_message h, hsend]
  rfl

/-- A connection that nothing comes between comes to what serving it comes to. -/
theorem alone_serve (listener : Listener) {index : Nat} {pieces frames : List Bytes}
    (ready : listener.connections[index]? = some ⟨pieces, .receiving, frames⟩) :
    ∃ rest, listener.Alone index
      { control := (Control.surface.serve listener.control pieces).control
        connections := listener.connections.set index
          ⟨rest, .ended (Control.surface.serve listener.control pieces).failure,
            frames ++ (Control.surface.serve listener.control pieces).frames⟩ } := by
  induction hlength : pieces.flatten.length using Nat.strongRecOn generalizing listener pieces frames with
  | ind length ih =>
    rcases receive_cases Request.read pieces with ⟨stop, hstop⟩ | ⟨request, rest, hmessage⟩
    · have hreceived := advance_receive ready rfl
      rw [Connection.afterReceive_stop hstop] at hreceived
      refine ⟨pieces, .head ⟨_, rfl, hreceived⟩ ?_⟩
      rw [Surface.serve, serveWith_stop hstop, List.append_nil]
      exact .refl
    · have hanswered := alone_answer ready hmessage
      by_cases hfits : (listener.control.handle request).1.Fits
      · rw [Connection.afterSend_of_fits hfits] at hanswered
        have hless : rest.flatten.length < length := hlength ▸ length_rest_lt hmessage
        let answered : Listener :=
          { listener with control := (listener.control.handle request).2 }.setConnection index
            ⟨rest, .receiving, frames ++ [framed (listener.control.handle request).1.toJson.compact]⟩
        obtain ⟨last, hlast⟩ := ih _ hless answered (getElem?_set_of_mem ready _) rfl
        refine ⟨last, hanswered.trans ?_⟩
        rw [serve_of_fits hmessage hfits]
        simpa only [answered, setConnection, List.set_set, List.append_assoc,
          List.singleton_append] using hlast
      · rw [Connection.afterSend_of_not_fits hfits] at hanswered
        refine ⟨rest, ?_⟩
        rw [serve_of_not_fits hmessage hfits, List.append_nil]
        exact hanswered

end Listener

end Admin

end Supervision
