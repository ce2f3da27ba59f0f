import Supervision.Admin.Listener
import Supervision.Proofs.Admin.Connections
import Supervision.Proofs.Traces

/-!
# Connections of one listener

The requests that a connection carries are told by the bytes that its client sends.  However its moves
come between those of others, it handles these requests in their order, each once and against the
supervisor as it is at that moment, and writes one frame for each.
-/

namespace Supervision.Admin

/-- The connection that makes the move, if it is one of a connection. -/
def ListenerMove.connection? : ListenerMove → Option Nat
  | receive index | handle index | send index => some index
  | accept _ | goOn _ _ => none

/-- A request that was handled, with its connection and the supervisor as it was then. -/
structure Handling where
  connection : Nat
  request : Request
  control : Control

def Handling.response (handling : Handling) : Response := (handling.control.handle handling.request).1

def Handling.frame (handling : Handling) : Bytes := framed handling.response.toJson.compact

/-! ## One connection -/

/-- How far a connection has come with the requests in what its client sends, of which these were
handled. -/
inductive Answering (stream : List Bytes) : List Handling → Connection → Prop
  /-- All responses were written, and the other requests are still to come. -/
  | receiving {handlings : List Handling} {pieces : List Bytes}
      (received : receiveEach Request.read stream =
        (handlings.map Handling.request ++ (receiveEach Request.read pieces).1,
          (receiveEach Request.read pieces).2))
      (fit : ∀ handling ∈ handlings, handling.response.Fits) :
      Answering stream handlings ⟨pieces, .receiving, handlings.map Handling.frame⟩
  /-- All responses were written, and the next request is received. -/
  | handling {handlings : List Handling} {request : Request} {pieces : List Bytes}
      (received : receiveEach Request.read stream =
        (handlings.map Handling.request ++ request :: (receiveEach Request.read pieces).1,
          (receiveEach Request.read pieces).2))
      (fit : ∀ handling ∈ handlings, handling.response.Fits) :
      Answering stream handlings ⟨pieces, .handling request, handlings.map Handling.frame⟩
  /-- The last response is still to be written. -/
  | sending {handlings : List Handling} {last : Handling} {pieces : List Bytes}
      (received : receiveEach Request.read stream =
        ((handlings ++ [last]).map Handling.request ++ (receiveEach Request.read pieces).1,
          (receiveEach Request.read pieces).2))
      (fit : ∀ handling ∈ handlings, handling.response.Fits) :
      Answering stream (handlings ++ [last])
        ⟨pieces, .sending last.response, handlings.map Handling.frame⟩
  /-- Every request was handled and every response written. -/
  | ended {handlings : List Handling} {failure : Option Failure} {pieces : List Bytes}
      (received : receiveEach Request.read stream = (handlings.map Handling.request, failure))
      (fit : ∀ handling ∈ handlings, handling.response.Fits) :
      Answering stream handlings ⟨pieces, .ended failure, handlings.map Handling.frame⟩
  /-- The last response is too large to be sent, and no further request is handled. -/
  | refused {handlings : List Handling} {last : Handling} {pieces : List Bytes}
      (received : (handlings ++ [last]).map Handling.request <+: (receiveEach Request.read stream).1)
      (fit : ∀ handling ∈ handlings, handling.response.Fits) (large : ¬ last.response.Fits) :
      Answering stream (handlings ++ [last])
        ⟨pieces, .ended (some tooLarge), handlings.map Handling.frame⟩

/-- A request that was sent is received, whatever follows it. -/
theorem Request.isFrame (request : Request) : IsFrame Request.read
    (lengthBytes request.toJson.compact.length) request.toJson.compact request where
  four := rfl
  spelled := by cases request <;> rfl
  within := by cases request <;> decide
  readable := request.accepts.read_eq

/-- A request that was sent is received, and what comes behind it is left. -/
theorem receive_request (request : Request) (more : Bytes) :
    ∃ rest, receive Request.read [framed request.toJson.compact ++ more] = .message request rest ∧
      rest.flatten = more :=
  request.isFrame.receive List.flatten_singleton

/-- Just the requests that a client sends are received from it. -/
theorem receiveEach_requests {requests : List Request} {pieces : List Bytes}
    (sent : pieces.flatten = requests.flatMap fun request ↦ framed request.toJson.compact) :
    receiveEach Request.read pieces = (requests, none) := by
  have frames : Frames Request.read (requests.flatMap fun request ↦ framed request.toJson.compact)
      requests := frames_flatMap (fun request _ ↦ request.accepts.read_eq)
        (fun request _ ↦ request.isFrame.within)
  have stops : Stops Request.read [] none := .closed (by decide)
  exact frames.receiveEach_eq stops (sent.trans (List.append_nil _).symm)

/-- Either a message is received, or receiving stops. -/
theorem receive_cases {α : Type} (reader : Json.Reader α) (pieces : List Bytes) :
    (∃ stop, receive reader pieces = .stop stop) ∨
      ∃ message rest, receive reader pieces = .message message rest := by
  cases h : receive reader pieces with
  | message message rest => exact .inr ⟨message, rest, rfl⟩
  | ended => exact .inl ⟨none, rfl⟩
  | failed failure => exact .inl ⟨some failure, rfl⟩

theorem Connection.afterReceive_stop {connection : Connection} {stop : Option Failure}
    (h : receive Request.read connection.pieces = .stop stop) :
    connection.afterReceive = { connection with phase := .ended stop } := by
  cases stop with
  | none | some failure =>
    rw [Received.stop] at h
    simp only [afterReceive, h]

theorem Connection.afterReceive_message {connection : Connection} {request : Request}
    {rest : List Bytes} (h : receive Request.read connection.pieces = .message request rest) :
    connection.afterReceive = { connection with pieces := rest, phase := .handling request } := by
  simp only [afterReceive, h]

theorem Connection.afterSend_of_fits {connection : Connection} {response : Response}
    (fits : response.Fits) : connection.afterSend response =
      { connection with
        phase := .receiving
        frames := connection.frames ++ [framed response.toJson.compact] } := by
  simp only [afterSend, Response.send_of_fits fits]

theorem Connection.afterSend_of_not_fits {connection : Connection} {response : Response}
    (large : ¬ response.Fits) :
    connection.afterSend response = { connection with phase := .ended (some tooLarge) } := by
  simp only [afterSend, Response.send_of_not_fits large]

section

variable {stream : List Bytes} {handlings : List Handling} {connection : Connection}

theorem Answering.accepted (stream : List Bytes) : Answering stream [] (.accepted stream) :=
  .receiving rfl nofun

/-- A connection that receives goes on answering the same requests. -/
theorem Answering.afterReceive (answering : Answering stream handlings connection)
    (ready : connection.phase = .receiving) : Answering stream handlings connection.afterReceive := by
  cases answering with
  | handling | sending | ended | refused => cases ready
  | @receiving _ pieces received fit =>
    rcases receive_cases Request.read pieces with ⟨stop, hstop⟩ | ⟨request, rest, hmessage⟩
    · rw [Connection.afterReceive_stop hstop]
      rw [receiveEach_stop hstop, List.append_nil] at received
      exact .ended received fit
    · rw [Connection.afterReceive_message hmessage]
      rw [receiveEach_message hmessage] at received
      exact .handling received fit

/-- A request that is handled is put behind those handled before. -/
theorem Answering.afterHandle {handling : Handling} (answering : Answering stream handlings connection)
    (ready : connection.phase = .handling handling.request) :
    Answering stream (handlings ++ [handling]) { connection with phase := .sending handling.response } := by
  cases answering with
  | receiving | sending | ended | refused => cases ready
  | @handling _ request pieces received fit =>
    obtain rfl : request = handling.request := ConnectionPhase.handling.inj ready
    refine .sending ?_ fit
    rw [received, List.map_append, List.append_assoc]
    rfl

/-- A connection that sends a response has answered all that was handled, or ends because the response
does not fit. -/
theorem Answering.afterSend {response : Response} (answering : Answering stream handlings connection)
    (ready : connection.phase = .sending response) :
    Answering stream handlings (connection.afterSend response) := by
  cases answering with
  | receiving | handling | ended | refused => cases ready
  | @sending before last pieces received fit =>
    obtain rfl : last.response = response := ConnectionPhase.sending.inj ready
    by_cases hfits : last.response.Fits
    · rw [Connection.afterSend_of_fits hfits]
      have hframes : before.map Handling.frame ++ [framed last.response.toJson.compact] =
          (before ++ [last]).map Handling.frame := by
        rw [List.map_append]
        rfl
      simp only [hframes]
      refine .receiving received ?_
      exact List.forall_mem_append.mpr ⟨fit, List.forall_mem_singleton.mpr hfits⟩
    · rw [Connection.afterSend_of_not_fits hfits]
      refine .refused ?_ fit hfits
      rw [received]
      exact List.prefix_append _ _

end

/-- A connection whose responses all fit has answered every request when it has ended. -/
theorem Answering.received_of_ended {stream : List Bytes} {handlings : List Handling}
    {connection : Connection} {failure : Option Failure}
    (answering : Answering stream handlings connection) (ended : connection.phase = .ended failure)
    (fit : ∀ handling ∈ handlings, handling.response.Fits) :
    receiveEach Request.read stream = (handlings.map Handling.request, failure) ∧
      connection.frames = handlings.map Handling.frame := by
  cases answering with
  | receiving | handling | sending => cases ended
  | ended received =>
    cases ended
    exact ⟨received, rfl⟩
  | refused _ _ large => exact absurd (fit _ List.mem_concat_self) large

/-- How many moves a connection may still make. -/
def Connection.remaining (connection : Connection) : Nat :=
  let carried := 3 * (receiveEach Request.read connection.pieces).1.length
  match connection.phase with
  | .receiving => carried + 1
  | .handling _ => carried + 3
  | .sending _ => carried + 2
  | .ended _ => 0

/-- To receive brings a connection nearer to its end. -/
theorem Connection.remaining_afterReceive {connection : Connection}
    (ready : connection.phase = .receiving) : connection.afterReceive.remaining < connection.remaining := by
  have hremaining : connection.remaining =
      3 * (receiveEach Request.read connection.pieces).1.length + 1 := by
    rw [remaining, ready]
  rw [hremaining]
  rcases receive_cases Request.read connection.pieces with ⟨stop, hstop⟩ | ⟨request, rest, hmessage⟩
  · rw [afterReceive_stop hstop]
    exact Nat.succ_pos _
  · rw [afterReceive_message hmessage, receiveEach_message hmessage, List.length_cons]
    exact Nat.lt_succ_self _

theorem Connection.remaining_afterSend {connection : Connection} {response : Response}
    (ready : connection.phase = .sending response) :
    (connection.afterSend response).remaining < connection.remaining := by
  have hremaining : connection.remaining =
      3 * (receiveEach Request.read connection.pieces).1.length + 2 := by
    rw [remaining, ready]
  rw [hremaining]
  by_cases hfits : response.Fits
  · rw [afterSend_of_fits hfits]
    exact Nat.lt_succ_self _
  · rw [afterSend_of_not_fits hfits]
    exact Nat.succ_pos _

namespace Listener

/-! ## The moves, case by case -/

inductive Moved (listener : Listener) : ListenerMove → Listener → Prop
  | accepted (pieces : List Bytes) : Moved listener (.accept pieces)
      { listener with connections := listener.connections ++ [.accepted pieces] }
  | received {index : Nat} {connection : Connection}
      (present : listener.connections[index]? = some connection)
      (ready : connection.phase = .receiving) :
      Moved listener (.receive index) (listener.setConnection index connection.afterReceive)
  | handled {index : Nat} {connection : Connection} {request : Request}
      (present : listener.connections[index]? = some connection)
      (ready : connection.phase = .handling request) :
      Moved listener (.handle index)
        ({ listener with control := (listener.control.handle request).2 }.setConnection index
          { connection with phase := .sending (listener.control.handle request).1 })
  | sent {index : Nat} {connection : Connection} {response : Response}
      (present : listener.connections[index]? = some connection)
      (ready : connection.phase = .sending response) :
      Moved listener (.send index) (listener.setConnection index (connection.afterSend response))
  | wentOn (processes : List ProcessStatus) (stops : Bool) : Moved listener (.goOn processes stops)
      { listener with control := listener.control.goOn processes stops }

theorem moved_of_advance {listener after : Listener} {move : ListenerMove}
    (h : listener.advance move = some after) : Moved listener move after := by
  cases move with
  | accept pieces => cases h; exact .accepted pieces
  | goOn processes stops => cases h; exact .wentOn processes stops
  | receive index =>
    obtain ⟨connection, present, h⟩ := Option.bind_eq_some_iff.mp h
    split at h
    · cases h; exact .received present ‹_›
    · cases h
  | handle index =>
    obtain ⟨connection, present, h⟩ := Option.bind_eq_some_iff.mp h
    split at h
    · cases h; exact .handled present ‹_›
    · cases h
  | send index =>
    obtain ⟨connection, present, h⟩ := Option.bind_eq_some_iff.mp h
    split at h
    · cases h; exact .sent present ‹_›
    · cases h

section

variable {listener : Listener} {index : Nat} {connection : Connection}

theorem advance_receive (present : listener.connections[index]? = some connection)
    (ready : connection.phase = .receiving) :
    listener.advance (.receive index) = some (listener.setConnection index connection.afterReceive) := by
  simp [advance, present, ready]

theorem advance_handle {request : Request} (present : listener.connections[index]? = some connection)
    (ready : connection.phase = .handling request) :
    listener.advance (.handle index) = some
      ({ listener with control := (listener.control.handle request).2 }.setConnection index
        { connection with phase := .sending (listener.control.handle request).1 }) := by
  simp [advance, present, ready]

theorem advance_send {response : Response} (present : listener.connections[index]? = some connection)
    (ready : connection.phase = .sending response) :
    listener.advance (.send index) =
      some (listener.setConnection index (connection.afterSend response)) := by
  simp [advance, present, ready]

/-- A connection that has not ended can go on, whatever the others do. -/
theorem exists_move (present : listener.connections[index]? = some connection)
    (unended : ∀ failure, connection.phase ≠ .ended failure) :
    ∃ move after, move.connection? = some index ∧ listener.advance move = some after := by
  cases h : connection.phase with
  | receiving => exact ⟨.receive index, _, rfl, advance_receive present h⟩
  | handling request => exact ⟨.handle index, _, rfl, advance_handle present h⟩
  | sending response => exact ⟨.send index, _, rfl, advance_send present h⟩
  | ended failure => exact absurd h (unended failure)

end

/-! ## Runs -/

/-- A move as it was made, and what it left. -/
abbrev Transition := MadeMove Listener ListenerMove Listener

abbrev follow (listener : Listener) :
    List ListenerMove → Option (List Transition × Listener) :=
  Trace.follow advance id listener

/-- What the client sends that is taken on in a move, if one is. -/
def Transition.stream? (transition : Transition) : Option (List Bytes) :=
  match transition.move with
  | .accept pieces => some pieces
  | _ => none

/-- The request that is handled in a move, if one is. -/
def Transition.handling? (transition : Transition) : Option Handling :=
  match transition.move with
  | .handle index => do
    let connection ← transition.before.connections[index]?
    match connection.phase with
    | .handling request => some ⟨index, request, transition.before.control⟩
    | _ => none
  | _ => none

def streams (past : List Transition) : List (List Bytes) := past.filterMap Transition.stream?

def handlings (past : List Transition) : List Handling := past.filterMap Transition.handling?

def handlingsOf (index : Nat) (past : List Transition) : List Handling :=
  (handlings past).filter (·.connection = index)

def movesOf (index : Nat) (past : List Transition) : List Transition :=
  past.filter (·.move.connection? = some index)

section

variable (index : Nat) (past : List Transition) (transition : Transition)

theorem streams_append_singleton :
    streams (past ++ [transition]) = streams past ++ transition.stream?.toList := by
  cases h : transition.stream? <;> simp [streams, h]

theorem handlings_append_singleton :
    handlings (past ++ [transition]) = handlings past ++ transition.handling?.toList := by
  cases h : transition.handling? <;> simp [handlings, h]

theorem handlingsOf_append_singleton : handlingsOf index (past ++ [transition]) =
    handlingsOf index past ++ transition.handling?.toList.filter (·.connection = index) := by
  rw [handlingsOf, handlings_append_singleton, List.filter_append]
  rfl

theorem movesOf_append_singleton : movesOf index (past ++ [transition]) =
    movesOf index past ++ [transition].filter (·.move.connection? = some index) := by
  rw [movesOf, List.filter_append]
  rfl

end

/-! ## What one move keeps -/

/-- How far the connection of a number has come, or that no client was taken on under it yet. -/
inductive Account (past : List Transition) (listener : Listener) (index : Nat) : Prop
  | never (untaken : (streams past)[index]? = none) (absent : listener.connections[index]? = none)
      (unheard : handlingsOf index past = []) (unmoved : movesOf index past = [])
  | once {stream : List Bytes} {connection : Connection}
      (taken : (streams past)[index]? = some stream)
      (present : listener.connections[index]? = some connection)
      (answering : Answering stream (handlingsOf index past) connection)
      (bounded : (movesOf index past).length + connection.remaining ≤
        3 * (receiveEach Request.read stream).1.length + 1)

variable {listener after : Listener} {move : ListenerMove} {past : List Transition} {index : Nat}

/-- A request is handled in a move of its connection, as it was received. -/
theorem move_of_handling? {transition : Transition} {handling : Handling}
    (h : transition.handling? = some handling) :
    transition.move = .handle handling.connection ∧ handling.control = transition.before.control ∧
      ∃ connection, transition.before.connections[handling.connection]? = some connection ∧
        connection.phase = .handling handling.request := by
  unfold Transition.handling? at h
  split at h
  · next index hmove =>
    obtain ⟨connection, present, h⟩ := Option.bind_eq_some_iff.mp h
    split at h
    · next request ready =>
      cases h
      exact ⟨hmove, rfl, connection, present, ready⟩
    · cases h
  · cases h

theorem getElem?_set_of_mem {connections : List Connection} {before : Connection}
    (present : connections[index]? = some before) (connection : Connection) :
    (connections.set index connection)[index]? = some connection := by
  obtain ⟨hlt, _⟩ := List.getElem?_eq_some_iff.mp present
  rw [List.getElem?_set_self hlt]

/-- A move of another connection leaves a connection as it is. -/
theorem Moved.connections_of_ne (h : Moved listener move after)
    (other : move.connection? ≠ some index) (quiet : ∀ pieces, move ≠ .accept pieces) :
    after.connections[index]? = listener.connections[index]? := by
  cases h with
  | accepted pieces => exact absurd rfl (quiet pieces)
  | wentOn processes stops => rfl
  | received | handled | sent => exact List.getElem?_set_ne fun h ↦ other (congrArg some h)

theorem handlingsOf_of_ne {transition : Transition} (other : transition.move.connection? ≠ some index) :
    handlingsOf index (past ++ [transition]) = handlingsOf index past := by
  rw [handlingsOf_append_singleton, List.append_right_eq_self, List.filter_eq_nil_iff]
  intro handling hmem heq
  obtain ⟨hmove, _⟩ := move_of_handling? (Option.mem_toList.mp hmem)
  exact other (by rw [hmove, ← of_decide_eq_true heq]; rfl)

theorem movesOf_of_ne {transition : Transition} (other : transition.move.connection? ≠ some index) :
    movesOf index (past ++ [transition]) = movesOf index past := by
  rw [movesOf_append_singleton, List.filter_cons_of_neg (by simpa using other), List.filter_nil,
    List.append_nil]

theorem length_movesOf_of_eq {transition : Transition}
    (own : transition.move.connection? = some index) :
    (movesOf index (past ++ [transition])).length = (movesOf index past).length + 1 := by
  rw [movesOf_append_singleton, List.filter_cons_of_pos (by simpa using own), List.filter_nil,
    List.length_append, List.length_singleton]

theorem streams_of_quiet (quiet : ∀ pieces, move ≠ .accept pieces) :
    streams (past ++ [⟨listener, move, after⟩]) = streams past := by
  rw [streams_append_singleton]
  cases move with
  | accept pieces => exact absurd rfl (quiet pieces)
  | receive | handle | send | goOn => exact List.append_nil _

/-- A client that was taken on has a connection, which has made no more moves than it has to make. -/
theorem Account.of_taken {stream : List Bytes} (account : Account past listener index)
    (taken : (streams past)[index]? = some stream) :
    ∃ connection, listener.connections[index]? = some connection ∧
      Answering stream (handlingsOf index past) connection ∧
        (movesOf index past).length + connection.remaining ≤
          3 * (receiveEach Request.read stream).1.length + 1 := by
  cases account with
  | never untaken => cases untaken.symm.trans taken
  | once here present answering bounded =>
    cases here.symm.trans taken
    exact ⟨_, present, answering, bounded⟩

/-- A move of its own takes a connection on, with the request that it handles, if it does. -/
theorem Account.own {connection next : Connection} (heard : List Handling)
    (account : Account past listener index)
    (present : listener.connections[index]? = some connection)
    (own : move.connection? = some index) (quiet : ∀ pieces, move ≠ .accept pieces)
    (changed : after.connections = listener.connections.set index next)
    (heard_eq : (Transition.handling? ⟨listener, move, after⟩).toList = heard)
    (named : ∀ handling ∈ heard, handling.connection = index)
    (answering : ∀ stream, Answering stream (handlingsOf index past) connection →
      Answering stream (handlingsOf index past ++ heard) next)
    (less : next.remaining < connection.remaining) :
    Account (past ++ [⟨listener, move, after⟩]) after index := by
  cases account with
  | never _ absent => cases absent.symm.trans present
  | @once stream _ taken here hanswering bounded =>
    cases here.symm.trans present
    have hpresent : after.connections[index]? = some next := by
      rw [changed]
      exact getElem?_set_of_mem present next
    refine .once (by rwa [streams_of_quiet quiet]) hpresent ?_ ?_
    · have hheard : heard.filter (·.connection = index) = heard :=
        List.filter_eq_self.mpr fun handling hmem ↦ decide_eq_true (named handling hmem)
      rw [handlingsOf_append_singleton, heard_eq, hheard]
      exact answering stream hanswering
    · rw [length_movesOf_of_eq own]
      omega

/-- A move that is not its own leaves a connection where it is. -/
theorem Account.other (account : Account past listener index) (moved : Moved listener move after)
    (other : move.connection? ≠ some index) (quiet : ∀ pieces, move ≠ .accept pieces) :
    Account (past ++ [⟨listener, move, after⟩]) after index := by
  have same := moved.connections_of_ne other quiet
  have hstreams : streams (past ++ [⟨listener, move, after⟩]) = streams past := streams_of_quiet quiet
  have hhandlings : handlingsOf index (past ++ [⟨listener, move, after⟩]) = handlingsOf index past :=
    handlingsOf_of_ne other
  have hmoves : movesOf index (past ++ [⟨listener, move, after⟩]) = movesOf index past :=
    movesOf_of_ne other
  cases account with
  | never untaken absent unheard unmoved =>
    exact .never (hstreams ▸ untaken) (same.trans absent) (hhandlings.trans unheard)
      (hmoves.trans unmoved)
  | once taken present answering bounded =>
    exact .once (hstreams ▸ taken) (same.trans present) (hhandlings ▸ answering) (hmoves ▸ bounded)

/-- A client that is taken on changes nothing for the others. -/
theorem Account.accepted {pieces : List Bytes} (account : Account past listener index)
    (lengths : (streams past).length = listener.connections.length)
    (added : after.connections = listener.connections ++ [.accepted pieces]) :
    Account (past ++ [⟨listener, .accept pieces, after⟩]) after index := by
  have hstreams : streams (past ++ [⟨listener, .accept pieces, after⟩]) = streams past ++ [pieces] :=
    streams_append_singleton past _
  have hhandlings : handlingsOf index (past ++ [⟨listener, .accept pieces, after⟩]) =
      handlingsOf index past := handlingsOf_of_ne nofun
  have hmoves : movesOf index (past ++ [⟨listener, .accept pieces, after⟩]) = movesOf index past :=
    movesOf_of_ne nofun
  cases account with
  | once taken present answering bounded =>
    refine .once ?_ ?_ (hhandlings ▸ answering) (hmoves ▸ bounded)
    · rw [hstreams, List.getElem?_append_left (List.getElem?_eq_some_iff.mp taken).1, taken]
    · rw [added, List.getElem?_append_left (List.getElem?_eq_some_iff.mp present).1, present]
  | never untaken absent unheard unmoved =>
    have hlength := List.getElem?_eq_none_iff.mp absent
    rcases Nat.eq_or_lt_of_le hlength with hnew | hlater
    · have htaken : (streams (past ++ [⟨listener, .accept pieces, after⟩]))[index]? = some pieces := by
        rw [hstreams, ← hnew, ← lengths, List.getElem?_concat_length]
      have hpresent : after.connections[index]? = some (.accepted pieces) := by
        rw [added, ← hnew, List.getElem?_concat_length]
      refine .once htaken hpresent ?_ ?_
      · rw [hhandlings, unheard]
        exact .accepted pieces
      · rw [hmoves, unmoved]
        exact Nat.le_of_eq (Nat.zero_add _)
    · refine .never ?_ ?_ (hhandlings.trans unheard) (hmoves.trans unmoved)
      · rw [hstreams, List.getElem?_eq_none_iff, List.length_append, List.length_singleton]
        omega
      · rw [added, List.getElem?_eq_none_iff, List.length_append, List.length_singleton]
        omega

/-- A move of one connection leaves the accounts of all others as they are. -/
theorem Moved.account (h : Moved listener move after)
    (lengths : (streams past).length = listener.connections.length)
    (account : Account past listener index) :
    Account (past ++ [⟨listener, move, after⟩]) after index := by
  have hmoved := h
  cases h with
  | accepted pieces => exact account.accepted lengths rfl
  | wentOn processes stops => exact account.other hmoved nofun nofun
  | @received moved connection present ready =>
    by_cases hindex : moved = index
    · subst hindex
      refine account.own [] present rfl nofun rfl rfl nofun (fun stream answering ↦ ?_)
        (Connection.remaining_afterReceive ready)
      rw [List.append_nil]
      exact answering.afterReceive ready
    · exact account.other hmoved (by simpa [ListenerMove.connection?] using hindex) nofun
  | @handled moved connection request present ready =>
    by_cases hindex : moved = index
    · subst hindex
      let handling : Handling := ⟨moved, request, listener.control⟩
      refine account.own [handling] present rfl nofun rfl ?_ ?_ (fun stream answering ↦ ?_) ?_
      · simp [Transition.handling?, present, ready, handling]
      · exact List.forall_mem_singleton.mpr rfl
      · exact answering.afterHandle ready
      · simp [Connection.remaining, ready]
    · exact account.other hmoved (by simpa [ListenerMove.connection?] using hindex) nofun
  | @sent moved connection response present ready =>
    by_cases hindex : moved = index
    · subst hindex
      refine account.own [] present rfl nofun rfl rfl nofun (fun stream answering ↦ ?_)
        (Connection.remaining_afterSend ready)
      rw [List.append_nil]
      exact answering.afterSend ready
    · exact account.other hmoved (by simpa [ListenerMove.connection?] using hindex) nofun

/-- Connections have the numbers in which their clients were taken on. -/
theorem Moved.lengths (h : Moved listener move after)
    (lengths : (streams past).length = listener.connections.length) :
    (streams (past ++ [⟨listener, move, after⟩])).length = after.connections.length := by
  cases h with
  | accepted pieces =>
    rw [streams_append_singleton, List.length_append, List.length_append, lengths]
    rfl
  | wentOn processes stops =>
    rw [streams_of_quiet]
    · exact lengths
    · nofun
  | received | handled | sent =>
    rw [streams_of_quiet]
    · exact lengths.trans List.length_set.symm
    · nofun

end Listener

end Supervision.Admin
