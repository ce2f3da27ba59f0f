import Supervision.Admin.Frame
import Supervision.Proofs.Admin.Messages

/-!
# Frames on a stream

What is received from a stream depends on its bytes and not on the pieces in which they arrive.  A
stream begins with as many whole frames as it can, and what is left of it then says how receiving
ends.  What was sent is received, and nothing else is.
-/

namespace Supervision.Admin

/-! ## Headers -/

theorem length_lengthBytes (length : Nat) : (lengthBytes length).length = 4 := rfl

/-- Four bytes spell every length that a frame may have. -/
theorem lengthOf_lengthBytes {length : Nat} (h : length ≤ maxFrameLength) :
    lengthOf (lengthBytes length) = length := by
  have hword : length < 0x100000000 := by
    rw [maxFrameLength] at h
    omega
  simp only [lengthOf, lengthBytes, List.foldl_cons, List.foldl_nil, Nat.toUInt8_eq,
    UInt8.toNat_ofNat']
  omega

/-! ## Bytes that arrive in pieces -/

/-- Bytes cannot be taken if the stream ends before that, however it is cut. -/
theorem takeBytes_eq_none {count : Nat} {pieces : List Bytes} :
    takeBytes count pieces = none ↔ pieces.flatten.length < count := by
  induction pieces generalizing count with
  | nil =>
    rw [takeBytes, List.flatten_nil, List.length_nil]
    split
    · simp only [reduceCtorEq, false_iff]
      omega
    · simp only [true_iff]
      omega
  | cons piece pieces ih =>
    simp only [takeBytes, List.flatten_cons, List.length_append, List.length_take]
    split
    · simp only [reduceCtorEq, false_iff]
      omega
    · have hrest : takeBytes (count - min count piece.length) pieces = none ↔
          pieces.flatten.length < count - min count piece.length := ih
      split
      · next hnone =>
        have hshort := hrest.mp hnone
        simp only [true_iff]
        omega
      · next hsome =>
        have hlong : ¬ pieces.flatten.length < count - min count piece.length := by
          simp only [← hrest, hsome, reduceCtorEq, not_false_eq_true]
        simp only [reduceCtorEq, false_iff]
        omega

/-- Bytes are taken across the pieces, and what comes behind them stays to be read. -/
theorem takeBytes_append {pieces : List Bytes} {taken rest : Bytes}
    (h : pieces.flatten = taken ++ rest) :
    ∃ later, takeBytes taken.length pieces = some (taken, later) ∧ later.flatten = rest := by
  cases htake : takeBytes taken.length pieces with
  | none =>
    have hshort := takeBytes_eq_none.mp htake
    rw [h, List.length_append] at hshort
    omega
  | some result =>
    obtain ⟨front, later⟩ := result
    obtain ⟨hlength, happend⟩ := takeBytes_eq_some htake
    obtain ⟨rfl, rfl⟩ := List.append_inj (happend.trans h) hlength
    exact ⟨later, rfl, rfl⟩

/-! ## Whole frames and what follows them -/

section

variable {α : Type} {reader : Json.Reader α}

/-- A header and a body that make a frame, and the message that is read from it. -/
structure IsFrame (reader : Json.Reader α) (header body : Bytes) (message : α) : Prop where
  four : header.length = 4
  spelled : lengthOf header = body.length
  within : body.length ≤ maxFrameLength
  readable : reader.read body = .ok message

/-- Bytes that are whole frames with readable bodies, and the messages in them. -/
inductive Frames (reader : Json.Reader α) : Bytes → List α → Prop
  | nil : Frames reader [] []
  | cons {header body front : Bytes} {message : α} {messages : List α}
      (first : IsFrame reader header body message) (more : Frames reader front messages) :
      Frames reader (header ++ body ++ front) (message :: messages)

/-- Bytes that do not begin with a readable frame, and the failure that they end receiving with, if
they do not end it well. -/
inductive Stops (reader : Json.Reader α) : Bytes → Option Failure → Prop
  | closed {rest : Bytes} (short : rest.length < 4) : Stops reader rest none
  /-- Nothing matters behind a header that spells too much. -/
  | oversized {header : Bytes} (four : header.length = 4)
      (beyond : maxFrameLength < lengthOf header) (more : Bytes) :
      Stops reader (header ++ more) (some (oversized (lengthOf header)))
  | cutShort {header body : Bytes} (four : header.length = 4)
      (within : lengthOf header ≤ maxFrameLength) (short : body.length < lengthOf header) :
      Stops reader (header ++ body) (some cutShort)
  | malformed {header body : Bytes} {fault : Json.Fault} (four : header.length = 4)
      (spelled : lengthOf header = body.length) (within : body.length ≤ maxFrameLength)
      (unreadable : reader.read body = .error fault) (more : Bytes) :
      Stops reader (header ++ body ++ more) (some (.json fault))

theorem Frames.append {front later : Bytes} {messages more : List α}
    (frames : Frames reader front messages) (others : Frames reader later more) :
    Frames reader (front ++ later) (messages ++ more) := by
  induction frames with
  | nil => exact others
  | cons first _ ih =>
    rw [List.append_assoc, List.cons_append]
    exact .cons first ih

/-- Whole frames can be parted between any two of their messages. -/
theorem Frames.split {whole : Bytes} {messages more : List α}
    (frames : Frames reader whole (messages ++ more)) :
    ∃ front later, whole = front ++ later ∧ Frames reader front messages ∧
      Frames reader later more := by
  induction messages generalizing whole with
  | nil => exact ⟨[], whole, rfl, .nil, frames⟩
  | cons message messages ih =>
    cases frames with
    | @cons header body _ _ _ first frames =>
      obtain ⟨front, later, rfl, hfront, hlater⟩ := ih frames
      exact ⟨header ++ body ++ front, later, (List.append_assoc _ _ _).symm,
        .cons first hfront, hlater⟩

/-- What is received where a stream stops. -/
def Received.stop : Option Failure → Received α
  | none => .ended
  | some failure => .failed failure

/-- A frame at the front of a stream is received as its message, however the stream is cut. -/
theorem IsFrame.receive {header body rest : Bytes} {message : α}
    (frame : IsFrame reader header body message) {pieces : List Bytes}
    (h : pieces.flatten = header ++ body ++ rest) :
    ∃ later, receive reader pieces = .message message later ∧ later.flatten = rest := by
  rw [List.append_assoc] at h
  obtain ⟨afterHeader, hheader, hbody⟩ := takeBytes_append h
  obtain ⟨later, hlater, hrest⟩ := takeBytes_append hbody
  refine ⟨later, ?_, hrest⟩
  rw [frame.four] at hheader
  simp only [Admin.receive, hheader, frame.spelled, hlater, frame.readable,
    Nat.not_lt.mpr frame.within, if_false]

/-- Where a stream stops it does so however it is cut. -/
theorem Stops.receive {rest : Bytes} {failure : Option Failure} (stops : Stops reader rest failure)
    {pieces : List Bytes} (h : pieces.flatten = rest) :
    receive reader pieces = .stop failure := by
  cases stops with
  | closed short =>
    rw [← h] at short
    simp only [Admin.receive, takeBytes_eq_none.mpr short, Received.stop]
  | oversized four beyond more =>
    obtain ⟨later, hheader, -⟩ := takeBytes_append h
    rw [four] at hheader
    simp only [Admin.receive, hheader, beyond, if_true, Received.stop]
  | @cutShort header body four within short =>
    obtain ⟨later, hheader, hbody⟩ := takeBytes_append h
    rw [four] at hheader
    rw [← hbody] at short
    simp only [Admin.receive, hheader, Nat.not_lt.mpr within, if_false,
      takeBytes_eq_none.mpr short, Received.stop]
  | malformed four spelled within unreadable more =>
    rw [List.append_assoc] at h
    obtain ⟨afterHeader, hheader, hbody⟩ := takeBytes_append h
    obtain ⟨later, hlater, -⟩ := takeBytes_append hbody
    rw [four] at hheader
    simp only [Admin.receive, hheader, spelled, hlater, unreadable, Nat.not_lt.mpr within, if_false,
      Received.stop]

/-- Only a stream with less than a header left ends without a failure. -/
theorem Stops.eq_none_iff {rest : Bytes} {failure : Option Failure}
    (stops : Stops reader rest failure) : failure = none ↔ rest.length < 4 := by
  cases stops with
  | closed short => exact iff_of_true rfl short
  | oversized four | cutShort four | malformed four =>
    refine iff_of_false nofun ?_
    simp only [List.length_append]
    omega

/-- A stream begins with a readable frame, or receiving ends at once. -/
theorem frame_or_stops (reader : Json.Reader α) (stream : Bytes) :
    (∃ header body rest message, IsFrame reader header body message ∧
      stream = header ++ body ++ rest) ∨ ∃ failure, Stops reader stream failure := by
  by_cases hshort : stream.length < 4
  · exact .inr ⟨none, .closed hshort⟩
  obtain ⟨header, later, rfl, four⟩ : ∃ header later, stream = header ++ later ∧ header.length = 4 :=
    ⟨stream.take 4, stream.drop 4, (List.take_append_drop 4 stream).symm,
      List.length_take_of_le (by omega)⟩
  by_cases hbeyond : maxFrameLength < lengthOf header
  · exact .inr ⟨_, .oversized four hbeyond later⟩
  by_cases hbody : later.length < lengthOf header
  · exact .inr ⟨_, .cutShort four (by omega) hbody⟩
  obtain ⟨body, rest, rfl, hspelled⟩ :
      ∃ body rest, later = body ++ rest ∧ body.length = lengthOf header :=
    ⟨later.take (lengthOf header), later.drop (lengthOf header),
      (List.take_append_drop _ later).symm, List.length_take_of_le (by omega)⟩
  rw [← List.append_assoc]
  cases hread : reader.read body with
  | ok message =>
    exact .inl ⟨header, body, rest, message, ⟨four, hspelled.symm, by omega, hread⟩, rfl⟩
  | error fault => exact .inr ⟨_, .malformed four hspelled.symm (by omega) hread rest⟩

/-- Every stream is whole frames and then something at which receiving ends. -/
theorem exists_frames (reader : Json.Reader α) (stream : Bytes) :
    ∃ front messages rest failure, Frames reader front messages ∧ Stops reader rest failure ∧
      stream = front ++ rest := by
  induction hlength : stream.length using Nat.strongRecOn generalizing stream with
  | ind length ih =>
    obtain ⟨header, body, later, message, first, rfl⟩ | ⟨failure, stops⟩ :=
      frame_or_stops reader stream
    · have hless : later.length < length := by
        rw [← hlength, List.length_append, List.length_append, first.four]
        omega
      obtain ⟨front, messages, rest, failure, frames, stops, rfl⟩ := ih _ hless later rfl
      exact ⟨header ++ body ++ front, message :: messages, rest, failure,
        .cons first frames, stops, (List.append_assoc _ _ _).symm⟩
    · exact ⟨[], [], stream, failure, .nil, stops, rfl⟩

theorem receiveEach_message {pieces later : List Bytes} {message : α}
    (h : receive reader pieces = .message message later) :
    receiveEach reader pieces =
      (message :: (receiveEach reader later).1, (receiveEach reader later).2) := by
  rw [receiveEach]
  split
  · next heq =>
    cases h.symm.trans heq
    rfl
  · next heq => cases h.symm.trans heq
  · next heq => cases h.symm.trans heq

theorem receiveEach_stop {pieces : List Bytes} {failure : Option Failure}
    (h : receive reader pieces = .stop failure) : receiveEach reader pieces = ([], failure) := by
  rw [receiveEach]
  cases failure with
  | none =>
    split
    · next heq => cases h.symm.trans heq
    · rfl
    · next heq => cases h.symm.trans heq
  | some failure =>
    split
    · next heq => cases h.symm.trans heq
    · next heq => cases h.symm.trans heq
    · next heq =>
      cases h.symm.trans heq
      rfl

/-- All messages of the frames are received, and then how it ends. -/
theorem Frames.receiveEach_eq {front rest : Bytes} {messages : List α} {failure : Option Failure}
    (frames : Frames reader front messages) (stops : Stops reader rest failure)
    {pieces : List Bytes} (h : pieces.flatten = front ++ rest) :
    receiveEach reader pieces = (messages, failure) := by
  induction frames generalizing pieces with
  | nil => exact receiveEach_stop (stops.receive h)
  | cons first more ih =>
    rw [List.append_assoc] at h
    obtain ⟨later, hreceive, hlater⟩ := first.receive h
    rw [receiveEach_message hreceive, ih hlater]

/-- Whole frames at the front of a stream never reach further than the place where it stops. -/
theorem Frames.length_stop_le {front rest other tail : Bytes} {messages others : List α}
    {failure : Option Failure} (frames : Frames reader front messages)
    (stops : Stops reader rest failure) (more : Frames reader other others)
    (h : other ++ tail = front ++ rest) : rest.length ≤ tail.length := by
  induction more generalizing front messages with
  | nil =>
    have hlength := congrArg List.length h
    rw [List.length_append, List.length_append, List.length_nil] at hlength
    omega
  | @cons header body other message others first more ih =>
    rw [List.append_assoc] at h
    have hflatten : [front ++ rest].flatten = header ++ body ++ (other ++ tail) := by
      rw [List.flatten_singleton, h]
    obtain ⟨later, hreceive, hlater⟩ := first.receive hflatten
    cases frames with
    | nil =>
      rw [List.nil_append, stops.receive List.flatten_singleton] at hreceive
      cases failure <;> cases hreceive
    | @cons header' body' front message' messages first' frames =>
      have hflatten' : [header' ++ body' ++ front ++ rest].flatten =
          header' ++ body' ++ (front ++ rest) := by
        rw [List.flatten_singleton, List.append_assoc]
      obtain ⟨later', hreceive', hlater'⟩ := first'.receive hflatten'
      rw [hreceive] at hreceive'
      cases hreceive'
      exact ih frames (hlater.symm.trans hlater')

/-- The longest part at the front of a stream that is whole frames with readable bodies. -/
structure LongestFrames (reader : Json.Reader α) (stream whole : Bytes) (messages : List α) :
    Prop where
  frames : Frames reader whole messages
  front : whole <+: stream
  longest : ∀ other others, Frames reader other others → other <+: stream →
    other.length ≤ whole.length

/-- Whole frames with a stop behind them are the longest there are. -/
theorem Frames.longest {whole rest : Bytes} {messages : List α} {failure : Option Failure}
    (frames : Frames reader whole messages) (stops : Stops reader rest failure) :
    LongestFrames reader (whole ++ rest) whole messages where
  frames := frames
  front := List.prefix_append _ _
  longest := by
    rintro other others more ⟨tail, htail⟩
    have hstop := frames.length_stop_le stops more htail
    have hlength := congrArg List.length htail
    rw [List.length_append, List.length_append] at hlength
    omega

end

/-! ## Sending -/

abbrev Fits (document : Bytes) : Prop := document.length ≤ maxFrameLength

/-- A document with its length before it. -/
def framed (document : Bytes) : Bytes := lengthBytes document.length ++ document

theorem writeFrame_of_fits {document : Bytes} (fits : Fits document) (before : Bytes) :
    (writeFrame document).run.run before = (.ok (), before ++ framed document) := by
  have hwithin : ¬ maxFrameLength < document.length := Nat.not_lt.mpr fits
  simp only [writeFrame, hwithin, if_false, framed, ← List.append_assoc]
  rfl

/-- A document too long for a frame is refused before anything is written. -/
theorem writeFrame_of_not_fits {document : Bytes} (large : ¬ Fits document) (before : Bytes) :
    (writeFrame document).run.run before = (.error tooLarge, before) := by
  have hbeyond : maxFrameLength < document.length := Nat.not_le.mp large
  simp only [writeFrame, hbeyond, if_true]
  rfl

theorem frame_of_fits {document : Bytes} (fits : Fits document) :
    frame document = .ok (framed document) := by
  rw [frame, writeFrame_of_fits fits, List.nil_append]

theorem frame_of_not_fits {document : Bytes} (large : ¬ Fits document) :
    frame document = .error tooLarge := by
  rw [frame, writeFrame_of_not_fits large]

/-- Steps for the elements of a list are taken one after another. -/
theorem run_mapM_cons {α β σ : Type} (step : α → StateM σ β) (first : α) (others : List α)
    (state : σ) :
    ((first :: others).mapM step).run state =
      let next := (step first).run state
      let last := (others.mapM step).run next.2
      (next.1 :: last.1, last.2) := by
  rw [List.mapM_cons]
  rfl

/-- Each document is sent or refused by itself, whatever became of those before it. -/
theorem sendEach_run (documents : List Bytes) (before : Bytes) :
    (sendEach documents).run before =
      (documents.map fun document ↦ if Fits document then .ok () else .error tooLarge,
        before ++ (documents.filter Fits).flatMap framed) := by
  induction documents generalizing before with
  | nil =>
    rw [List.filter_nil, List.flatMap_nil, List.append_nil]
    rfl
  | cons document documents ih =>
    rw [sendEach, run_mapM_cons, ← sendEach]
    by_cases fits : Fits document
    · rw [writeFrame_of_fits fits]
      simp only [ih, List.map_cons, fits, if_true, List.filter_cons, decide_true,
        List.flatMap_cons, List.append_assoc]
    · rw [writeFrame_of_not_fits fits]
      simp only [ih, List.map_cons, fits, if_false, List.filter_cons, decide_false,
        Bool.false_eq_true]

/-! ## Messages from one end to the other -/

section

variable {α : Type}

/-- Documents that read back make whole frames one after another. -/
theorem frames_flatMap {document : α → Bytes} {reader : Json.Reader α} {messages : List α}
    (readable : ∀ message ∈ messages, reader.read (document message) = .ok message)
    (fit : ∀ message ∈ messages, Fits (document message)) :
    Frames reader (messages.flatMap fun message ↦ framed (document message)) messages := by
  induction messages with
  | nil => exact .nil
  | cons message messages ih =>
    rw [List.forall_mem_cons] at readable fit
    have first : IsFrame reader (lengthBytes (document message).length) (document message) message :=
      ⟨length_lengthBytes _, lengthOf_lengthBytes fit.1, fit.1, readable.1⟩
    exact .cons first (ih readable.2 fit.2)

/-- What becomes of messages that are sent over one connection, one after another and each as its
document, whatever becomes of each. -/
structure Delivered (document : α → Bytes) (reader : Json.Reader α) (messages : List α) : Prop where
  /-- Just those are sent that fit. -/
  outcomes : ((sendEach (messages.map document)).run []).1 =
    messages.map fun message ↦ if Fits (document message) then .ok () else .error tooLarge
  /-- A message that does not fit leaves no byte behind. -/
  refused : ∀ message ∈ messages, ¬ Fits (document message) → ∀ before,
    ((writeFrame (document message)).run.run before).2 = before
  /-- Each of the others is written behind its length. -/
  written : ((sendEach (messages.map document)).run []).2 =
    (messages.filter fun message ↦ Fits (document message)).flatMap fun message ↦
      lengthBytes (document message).length ++ document message
  /-- The length takes four bytes, and none of it is lost. -/
  headers : ∀ message ∈ messages, Fits (document message) →
    (lengthBytes (document message).length).length = 4 ∧
      lengthOf (lengthBytes (document message).length) = (document message).length
  /-- The other end receives what was sent, however it arrives, and then the end of the stream. -/
  received : ∀ pieces : List Bytes,
    pieces.flatten = ((sendEach (messages.map document)).run []).2 →
      receiveEach reader pieces = (messages.filter fun message ↦ Fits (document message), none)

/-- Messages are delivered if each reads back from its document. -/
theorem Delivered.of_read {document : α → Bytes} {reader : Json.Reader α} {messages : List α}
    (readable : ∀ message ∈ messages, reader.read (document message) = .ok message) :
    Delivered document reader messages := by
  have hwritten : ((sendEach (messages.map document)).run []).2 =
      (messages.filter fun message ↦ Fits (document message)).flatMap fun message ↦
        framed (document message) := by
    rw [sendEach_run, List.nil_append, List.filter_map, List.flatMap_map]
    rfl
  constructor
  case outcomes =>
    rw [sendEach_run, List.map_map]
    rfl
  case refused =>
    intro message _ large before
    rw [writeFrame_of_not_fits large]
  case written => exact hwritten
  case headers =>
    intro message _ fits
    exact ⟨length_lengthBytes _, lengthOf_lengthBytes fits⟩
  case received =>
    intro pieces hpieces
    rw [hwritten] at hpieces
    have frames : Frames reader
        ((messages.filter fun message ↦ Fits (document message)).flatMap fun message ↦
          framed (document message))
        (messages.filter fun message ↦ Fits (document message)) := by
      apply frames_flatMap
      · intro message hmem
        exact readable message (List.mem_of_mem_filter hmem)
      · intro message hmem
        exact of_decide_eq_true (List.mem_filter.mp hmem).2
    have stops : Stops reader [] none := .closed (by decide)
    exact frames.receiveEach_eq stops (hpieces.trans (List.append_nil _).symm)

end

/-- Of the messages that are sent over a connection, just those that fit in a frame come through. -/
theorem messages_come_through (responses : List Response)
    (fit : ∀ response ∈ responses, response.CodesFit) (requests : List Request) :
    Delivered (fun response : Response ↦ response.toJson.compact) Response.read responses ∧
      Delivered (fun request : Request ↦ request.toJson.compact) Request.read requests :=
  ⟨.of_read fun response hmem ↦ (Response.accepts (fit response hmem)).read_eq,
    .of_read fun request _ ↦ request.accepts.read_eq⟩

/-- Responses with texts to be escaped and codes at both ends of their range. -/
def Response.samples : List Response :=
  [.status "\"pair\"\n"
    [{ name := "wéb 😀", state := .running, pid := some 0xffffffff, restarts := 0
       restartPolicy := "on\\failure", lastExitCode := some (-0x80000000) },
      { name := "", state := .terminal, pid := none, restarts := 0xffffffff
        restartPolicy := "never\u0001", lastExitCode := some 0x7fffffff }],
    .pong, .failure "", .success "stopping\t\u0000"]

/-- The samples are received from a stream that arrives byte by byte. -/
theorem messages_come_through_bytes :
    (∀ response ∈ Response.samples, response.CodesFit) ∧
      receiveEach Response.read
        (((sendEach (Response.samples.map fun response ↦ response.toJson.compact)).run []).2.map
          fun byte ↦ [byte]) = (Response.samples, none) := by
  have fit : ∀ response ∈ Response.samples, response.CodesFit := by
    simp [Response.samples, Response.CodesFit, Response.statuses, ProcessStatus.CodeFits]
  have hall : (Response.samples.filter fun response ↦ Fits response.toJson.compact) =
      Response.samples := by
    decide +kernel
  have hpieces (stream : Bytes) : (stream.map fun byte ↦ [byte]).flatten = stream := by
    rw [← List.flatMap_def, List.flatMap_singleton']
  have hreceived := (messages_come_through Response.samples fit []).1.received _ (hpieces _)
  rw [hall] at hreceived
  exact ⟨fit, hreceived⟩

end Supervision.Admin
