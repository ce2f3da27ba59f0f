import Supervision.Admin.Connection
import Supervision.Proofs.Admin.Frames

/-!
# What a connection answers

A connection answers the whole frames at the front of what it receives, up to the first response that
is too long to be sent.  What stands behind the last request that was answered decides how the
connection ends, and nothing else.
-/

namespace Supervision.Admin

abbrev Response.Fits (response : Response) : Prop := Admin.Fits response.toJson.compact

/-- A response that fits is sent as one frame. -/
theorem Response.send_of_fits {response : Response} (fits : response.Fits) :
    response.send = .ok (framed response.toJson.compact) := frame_of_fits fits

theorem Response.send_of_not_fits {response : Response} (large : ¬ response.Fits) :
    response.send = .error tooLarge := frame_of_not_fits large

section

variable {σ : Type} (handle : Request → StateM σ Response)

/-- The responses to requests that are handled one after another. -/
def responsesTo (control : σ) (requests : List Request) : List Response :=
  ((requests.mapM handle).run control).1

/-- What requests make of the state behind the socket. -/
def controlAfter (control : σ) (requests : List Request) : σ :=
  ((requests.mapM handle).run control).2

/-- The requests up to the first whose response does not fit, this one included. -/
def untilTooLarge (control : σ) : List Request → List Request
  | [] => []
  | request :: requests =>
    if ((handle request).run control).1.Fits then
      request :: untilTooLarge ((handle request).run control).2 requests
    else [request]

/-- The conversation in which these requests are handled and the responses sent that fit.  If not all
of them do, it ends with that; else it ends as the stream does. -/
def conclude (stop : Option Failure) (control : σ) (requests : List Request) : Conversation σ where
  frames := ((responsesTo handle control requests).filter Response.Fits).map fun response ↦
    framed response.toJson.compact
  failure := if ∀ response ∈ responsesTo handle control requests, response.Fits then stop
    else some tooLarge
  control := controlAfter handle control requests

/-- Handles requests and keeps a list of them. -/
def recording (request : Request) : StateM (σ × List Request) Response := fun (control, calls) ↦
  let (response, control) := (handle request).run control
  (response, control, calls ++ [request])

variable {handle}

/-! ## Handling requests one after another -/

@[simp]
theorem responsesTo_nil (control : σ) : responsesTo handle control [] = [] := rfl

@[simp]
theorem controlAfter_nil (control : σ) : controlAfter handle control [] = control := rfl

@[simp]
theorem responsesTo_cons (control : σ) (request : Request) (requests : List Request) :
    responsesTo handle control (request :: requests) =
      ((handle request).run control).1 ::
        responsesTo handle ((handle request).run control).2 requests := by
  rw [responsesTo, run_mapM_cons]
  rfl

@[simp]
theorem controlAfter_cons (control : σ) (request : Request) (requests : List Request) :
    controlAfter handle control (request :: requests) =
      controlAfter handle ((handle request).run control).2 requests := by
  rw [controlAfter, run_mapM_cons]
  rfl

theorem responsesTo_recording (control : σ) (calls requests : List Request) :
    responsesTo (recording handle) (control, calls) requests = responsesTo handle control requests := by
  induction requests generalizing control calls with
  | nil => rfl
  | cons request requests ih =>
    rw [responsesTo_cons, responsesTo_cons]
    exact congrArg _ (ih _ _)

theorem controlAfter_recording (control : σ) (calls requests : List Request) :
    controlAfter (recording handle) (control, calls) requests =
      (controlAfter handle control requests, calls ++ requests) := by
  induction requests generalizing control calls with
  | nil =>
    rw [List.append_nil]
    rfl
  | cons request requests ih =>
    rw [controlAfter_cons, controlAfter_cons, List.append_cons]
    exact ih _ _

theorem untilTooLarge_recording (control : σ) (calls requests : List Request) :
    untilTooLarge (recording handle) (control, calls) requests =
      untilTooLarge handle control requests := by
  induction requests generalizing control calls with
  | nil => rfl
  | cons request requests ih =>
    rw [untilTooLarge, untilTooLarge]
    congr 2
    exact ih _ _

/-- A list of the handled requests can be kept without a change to the conversation. -/
theorem conclude_recording (stop : Option Failure) (control : σ) (calls requests : List Request) :
    conclude (recording handle) stop (control, calls) requests =
      { frames := (conclude handle stop control requests).frames
        failure := (conclude handle stop control requests).failure
        control := (controlAfter handle control requests, calls ++ requests) } := by
  rw [conclude, responsesTo_recording, controlAfter_recording]
  rfl

/-! ## Requests up to a response that is too large -/

/-- What is handled stands at the front of what was received. -/
theorem untilTooLarge_prefix (control : σ) (requests : List Request) :
    untilTooLarge handle control requests <+: requests := by
  induction requests generalizing control with
  | nil => exact List.prefix_refl _
  | cons request requests ih =>
    rw [untilTooLarge]
    split
    · exact (List.prefix_cons_inj request).mpr (ih _)
    · exact ⟨requests, rfl⟩

/-- If all responses fit, then nothing is cut off. -/
theorem untilTooLarge_of_fits {control : σ} {requests : List Request}
    (fit : ∀ response ∈ responsesTo handle control (untilTooLarge handle control requests),
      response.Fits) :
    untilTooLarge handle control requests = requests := by
  induction requests generalizing control with
  | nil => rfl
  | cons request requests ih =>
    rw [untilTooLarge] at fit ⊢
    split at fit
    · next hfits =>
      rw [responsesTo_cons, List.forall_mem_cons] at fit
      rw [if_pos hfits, ih fit.2]
    · next hlarge =>
      rw [responsesTo_cons, List.forall_mem_cons] at fit
      exact absurd fit.1 hlarge

/-- What comes after a response that does not fit is cut off. -/
theorem untilTooLarge_append {control : σ} {requests : List Request}
    (large : ¬ ∀ response ∈ responsesTo handle control (untilTooLarge handle control requests),
      response.Fits) (more : List Request) :
    untilTooLarge handle control (untilTooLarge handle control requests ++ more) =
      untilTooLarge handle control requests := by
  induction requests generalizing control with
  | nil => exact absurd nofun large
  | cons request requests ih =>
    rw [untilTooLarge] at large ⊢
    split at large
    · next hfits =>
      rw [responsesTo_cons, List.forall_mem_cons, not_and] at large
      rw [if_pos hfits, List.cons_append, untilTooLarge, if_pos hfits, ih (large hfits)]
    · next hlarge =>
      rw [if_neg hlarge, List.cons_append, untilTooLarge, if_neg hlarge]

/-- Requests that were cut once are not cut again. -/
theorem untilTooLarge_self (control : σ) (requests : List Request) :
    untilTooLarge handle control (untilTooLarge handle control requests) =
      untilTooLarge handle control requests := by
  by_cases hfit : ∀ response ∈ responsesTo handle control (untilTooLarge handle control requests),
      response.Fits
  · rw [untilTooLarge_of_fits hfit, untilTooLarge_of_fits hfit]
  · have h := untilTooLarge_append hfit []
    rwa [List.append_nil] at h

/-- Only the last of the responses may be one that does not fit. -/
theorem fits_of_mem_dropLast (control : σ) (requests : List Request) :
    ∀ response ∈ (responsesTo handle control (untilTooLarge handle control requests)).dropLast,
      response.Fits := by
  induction requests generalizing control with
  | nil => exact nofun
  | cons request requests ih =>
    rw [untilTooLarge]
    split
    · next hfits =>
      intro response hmem
      have hrest := ih ((handle request).run control).2 response
      rw [responsesTo_cons] at hmem
      cases hresponses : responsesTo handle ((handle request).run control).2
        (untilTooLarge handle ((handle request).run control).2 requests) with
      | nil =>
        rw [hresponses] at hmem
        cases hmem
      | cons next others =>
        rw [hresponses, List.dropLast_cons_cons, List.mem_cons] at hmem
        obtain rfl | hmem := hmem
        · exact hfits
        · exact hrest (hresponses ▸ hmem)
    · exact nofun

/-! ## What a connection comes to -/

/-- A response that fits is sent, and the connection goes on with the next request. -/
theorem conclude_cons_of_fits {control : σ} {request : Request}
    (fits : ((handle request).run control).1.Fits) (stop : Option Failure)
    (requests : List Request) :
    conclude handle stop control (request :: requests) =
      let later := conclude handle stop ((handle request).run control).2 requests
      { later with
        frames := framed ((handle request).run control).1.toJson.compact :: later.frames } := by
  simp [conclude, fits]

/-- A response that does not fit ends the connection, though its request was handled. -/
theorem conclude_of_not_fits {control : σ} {request : Request}
    (large : ¬ ((handle request).run control).1.Fits) (stop : Option Failure) :
    conclude handle stop control [request] =
      ⟨[], some tooLarge, ((handle request).run control).2⟩ := by
  simp [conclude, large]

/-- Where the stream stops the connection ends, and nothing more is handled. -/
theorem serveWith_stop {control : σ} {pieces : List Bytes} {stop : Option Failure}
    (h : receive Request.read pieces = .stop stop) :
    serveWith handle control pieces = ⟨[], stop, control⟩ := by
  rw [serveWith]
  cases stop with
  | none =>
    split
    · rfl
    · next heq => cases h.symm.trans heq
    · next heq => cases h.symm.trans heq
  | some failure =>
    split
    · next heq => cases h.symm.trans heq
    · next heq =>
      cases h.symm.trans heq
      rfl
    · next heq => cases h.symm.trans heq

/-- One turn of the loop: a request is handled, and the loop goes on if its response could be
sent. -/
theorem serveWith_message {control : σ} {pieces later : List Bytes} {request : Request}
    (h : receive Request.read pieces = .message request later) :
    serveWith handle control pieces =
      match ((handle request).run control).1.send with
      | .error failure => ⟨[], some failure, ((handle request).run control).2⟩
      | .ok frame =>
        let served := serveWith handle ((handle request).run control).2 later
        { served with frames := frame :: served.frames } := by
  rw [serveWith]
  split
  · next heq => cases h.symm.trans heq
  · next heq => cases h.symm.trans heq
  · next heq =>
    cases h.symm.trans heq
    rfl

/-- A connection handles the requests in the whole frames that it receives, up to a response that is
too large, and ends as its stream does unless there is one. -/
theorem serveWith_eq {front rest : Bytes} {requests : List Request} {stop : Option Failure}
    (frames : Frames Request.read front requests) (stops : Stops Request.read rest stop)
    (control : σ) {pieces : List Bytes} (h : pieces.flatten = front ++ rest) :
    serveWith handle control pieces =
      conclude handle stop control (untilTooLarge handle control requests) := by
  induction frames generalizing control pieces with
  | nil => exact serveWith_stop (stops.receive h)
  | cons first more ih =>
    rw [List.append_assoc] at h
    obtain ⟨later, hreceive, hlater⟩ := first.receive h
    rw [untilTooLarge]
    split
    · next hfits =>
      rw [serveWith_message hreceive, Response.send_of_fits hfits, conclude_cons_of_fits hfits,
        ← ih _ hlater]
    · next hlarge =>
      rw [serveWith_message hreceive, Response.send_of_not_fits hlarge, conclude_of_not_fits hlarge]

/-- Behind a request whose response does not fit there may be anything. -/
theorem serveWith_front {front : Bytes} {received : List Request} {control : σ}
    (frames : Frames Request.read front (untilTooLarge handle control received)) (rest : Bytes)
    (large : ¬ ∀ response ∈ responsesTo handle control (untilTooLarge handle control received),
      response.Fits)
    {pieces : List Bytes} (h : pieces.flatten = front ++ rest) :
    serveWith handle control pieces =
      conclude handle none control (untilTooLarge handle control received) := by
  obtain ⟨next, more, last, stop, hmore, stops, rfl⟩ := exists_frames Request.read rest
  rw [← List.append_assoc] at h
  rw [serveWith_eq (frames.append hmore) stops control h, untilTooLarge_append large, conclude,
    conclude, if_neg large, if_neg large]

end

/-! ## What a client sees -/

section

variable {σ : Type}

/-- How a connection goes that answers these requests, with their frames at the front of what arrives
and the rest behind them. -/
structure Answered (surface : Surface σ) (control : σ) (requests : List Request)
    (front rest : Bytes) (pieces : List Bytes) : Prop where
  /-- The requests are handled, once each and in order. -/
  calls : serveWith (recording surface.handle) (control, []) pieces =
    { frames := (surface.serve control pieces).frames
      failure := (surface.serve control pieces).failure
      control := ((surface.serve control pieces).control, requests) }
  /-- What the requests make of the state behind the socket is all that becomes of it. -/
  state : (surface.serve control pieces).control = controlAfter surface.handle control requests
  /-- The responses are written in the same order, but for those that do not fit. -/
  responses : (surface.serve control pieces).frames =
    ((responsesTo surface.handle control requests).filter Response.Fits).map fun response ↦
      lengthBytes response.toJson.compact.length ++ response.toJson.compact
  /-- Only the last may be one that does not fit. -/
  before_last : ∀ response ∈ (responsesTo surface.handle control requests).dropLast, response.Fits
  /-- One that does not fit leaves no byte behind. -/
  unwritten : ∀ response ∈ responsesTo surface.handle control requests, ¬ response.Fits →
    ∀ before, (writeFrame response.toJson.compact).run.run before = (.error tooLarge, before)
  /-- The connection ends well if all fit and no header follows. -/
  ends_well : (surface.serve control pieces).failure = none ↔
    (∀ response ∈ responsesTo surface.handle control requests, response.Fits) ∧ rest.length < 4
  /-- If one does not fit, then that is the failure, and it does not matter what follows. -/
  too_large : (∃ response ∈ responsesTo surface.handle control requests, ¬ response.Fits) →
    (surface.serve control pieces).failure = some tooLarge ∧
      ∀ others : List Bytes, front <+: others.flatten →
        surface.serve control others = surface.serve control pieces
  /-- If all fit, then the failure is that of what follows. -/
  stopped : (∀ response ∈ responsesTo surface.handle control requests, response.Fits) →
    Stops Request.read rest (surface.serve control pieces).failure
  /-- What follows has no other effect. -/
  unaffected : ∀ others : List Bytes, others.flatten = front →
    (surface.serve control others).frames = (surface.serve control pieces).frames ∧
      (surface.serve control others).control = (surface.serve control pieces).control
  /-- A header that spells too much decides alone. -/
  header_decides : ∀ header, header.length = 4 → maxFrameLength < lengthOf header →
    header <+: rest → ∀ others : List Bytes, front ++ header <+: others.flatten →
      surface.serve control others = surface.serve control pieces

/-- The requests up to the first whose response does not fit are answered whatever follows them, so
a stream that begins with their frames and goes on otherwise is served alike up to there. -/
theorem Answered.of_frames {surface : Surface σ} {control : σ} {received : List Request}
    {whole last front rest : Bytes} {stop : Option Failure} {pieces : List Bytes}
    (frames : Frames Request.read whole received) (stops : Stops Request.read last stop)
    (arrived : pieces.flatten = whole ++ last) (cut : whole ++ last = front ++ rest)
    (answered : Frames Request.read front (untilTooLarge surface.handle control received))
    (stopped : (∀ response ∈ responsesTo surface.handle control
      (untilTooLarge surface.handle control received), response.Fits) →
        Stops Request.read rest stop) :
    Answered surface control (untilTooLarge surface.handle control received) front rest pieces := by
  have hserve : surface.serve control pieces =
      conclude surface.handle stop control (untilTooLarge surface.handle control received) :=
    serveWith_eq frames stops control arrived
  have hother {others : List Bytes} {tail : Bytes} {failure : Option Failure}
      (stops : Stops Request.read tail failure) (h : others.flatten = front ++ tail) :
      surface.serve control others =
        conclude surface.handle failure control (untilTooLarge surface.handle control received) := by
    rw [Surface.serve, serveWith_eq answered stops control h, untilTooLarge_self]
  constructor
  case calls =>
    rw [serveWith_eq frames stops (control, []) arrived, untilTooLarge_recording,
      conclude_recording, hserve]
    rfl
  case state =>
    rw [hserve]
    rfl
  case responses =>
    rw [hserve]
    rfl
  case before_last => exact fits_of_mem_dropLast control received
  case unwritten =>
    intro response _ large before
    exact writeFrame_of_not_fits large before
  case ends_well =>
    rw [hserve, conclude]
    split
    · next hfit => rw [(stopped hfit).eq_none_iff, and_iff_right hfit]
    · next hlarge => simp only [reduceCtorEq, hlarge, false_and]
  case too_large =>
    rintro ⟨response, hmem, hlarge⟩
    have large : ¬ ∀ response ∈ responsesTo surface.handle control
        (untilTooLarge surface.handle control received), response.Fits :=
      fun hfit ↦ hlarge (hfit response hmem)
    constructor
    · rw [hserve, conclude, if_neg large]
    · rintro others ⟨tail, htail⟩
      rw [Surface.serve, Surface.serve, serveWith_front answered tail large htail.symm,
        serveWith_front answered rest large (arrived.trans cut)]
  case stopped =>
    intro hfit
    rw [hserve, conclude, if_pos hfit]
    exact stopped hfit
  case unaffected =>
    intro others h
    have closed : Stops Request.read [] none := .closed (by decide)
    rw [hserve, hother closed (h.trans (List.append_nil front).symm)]
    exact ⟨rfl, rfl⟩
  case header_decides =>
    rintro header four beyond ⟨more, rfl⟩ others ⟨tail, htail⟩
    rw [List.append_assoc] at htail
    rw [hother (.oversized four beyond tail) htail.symm,
      hother (.oversized four beyond more) (arrived.trans cut)]

/-- Of the whole frames at the front of what a client sends, a connection answers all up to a response
that is too large, and nothing else. -/
theorem serves_the_wellformed_prefix (surface : Surface σ) (control : σ) (stream : Bytes) :
    ∃ whole received front rest, LongestFrames Request.read stream whole received ∧
      stream = front ++ rest ∧
      Frames Request.read front (untilTooLarge surface.handle control received) ∧
      ∀ pieces : List Bytes, pieces.flatten = stream →
        Answered surface control (untilTooLarge surface.handle control received) front rest
          pieces := by
  obtain ⟨whole, received, last, stop, frames, stops, rfl⟩ := exists_frames Request.read stream
  have hprefix : untilTooLarge surface.handle control received <+: received :=
    untilTooLarge_prefix control received
  obtain ⟨more, hmore⟩ := hprefix
  obtain ⟨front, later, rfl, hfront, hlater⟩ := Frames.split (hmore.symm ▸ frames)
  refine ⟨front ++ later, received, front, later ++ last, frames.longest stops,
    List.append_assoc _ _ _, hfront, fun pieces arrived ↦ ?_⟩
  refine .of_frames frames stops arrived (List.append_assoc _ _ _) hfront fun hfit ↦ ?_
  have hall : untilTooLarge surface.handle control received = received := untilTooLarge_of_fits hfit
  have hnone : more = [] := by
    rw [hall] at hmore
    exact List.append_right_eq_self.mp hmore
  subst hnone
  cases hlater
  exact stops

end

end Supervision.Admin
