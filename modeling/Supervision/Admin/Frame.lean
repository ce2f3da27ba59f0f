import Supervision.Admin.Message
import Supervision.Failure

/-!
# Admin frames

On the wire a message is four bytes of length, the highest first, and then its document.  A message
that is too long is refused before anything is written, and a frame that claims to be too long is
refused before anything of it is read.
-/

namespace Supervision.Admin

/-- The longest document a frame may hold. -/
def maxFrameLength : Nat := 4 * 1024 * 1024

def lengthBytes (length : Nat) : Bytes :=
  [(length / 0x1000000).toUInt8, (length / 0x10000).toUInt8, (length / 0x100).toUInt8, length.toUInt8]

/-- The length that the bytes of a header spell. -/
def lengthOf (header : Bytes) : Nat := header.foldl (fun length byte => length * 256 + byte.toNat) 0

/-- A document too long for a frame. -/
def tooLarge : Failure := .described "admin frame too large"

/-- What is done to a connection for sending.  The state is all that was written to it; what was
written before a failure stays written. -/
abbrev Writer := ExceptT Failure (StateM Bytes)

/-- Writes bytes behind those that were written before. -/
def write (bytes : Bytes) : Writer Unit := modify (· ++ bytes)

def writeFrame (document : Bytes) : Writer Unit := do
  let length := document.length
  if maxFrameLength < length then throw tooLarge
  write (lengthBytes length)
  write document

/-- The bytes that sending a document writes. -/
def frame (document : Bytes) : Except Failure Bytes :=
  match (writeFrame document).run.run [] with
  | (.ok (), written) => .ok written
  | (.error failure, _) => .error failure

/-- Sends documents one after another, whatever becomes of each. -/
def sendEach (documents : List Bytes) : StateM Bytes (List (Except Failure Unit)) :=
  documents.mapM fun document => (writeFrame document).run

def Request.send (request : Request) : Except Failure Bytes := frame request.toJson.compact

def Response.send (response : Response) : Except Failure Bytes := frame response.toJson.compact

/-- Takes so many bytes off a stream that arrives in pieces, unless it ends before that. -/
def takeBytes (count : Nat) : List Bytes → Option (Bytes × List Bytes)
  | [] => if count = 0 then some ([], []) else none
  | piece :: pieces =>
    let taken := piece.take count
    if taken.length = count then some (taken, piece.drop count :: pieces)
    else
      match takeBytes (count - taken.length) pieces with
      | none => none
      | some (more, pieces) => some (taken ++ more, pieces)

theorem takeBytes_eq_some {count : Nat} {pieces rest : List Bytes} {taken : Bytes}
    (h : takeBytes count pieces = some (taken, rest)) :
    taken.length = count ∧ taken ++ rest.flatten = pieces.flatten := by
  induction pieces generalizing count taken with
  | nil =>
    rw [takeBytes] at h
    split at h
    · cases h
      exact ⟨.symm ‹_›, rfl⟩
    · cases h
  | cons piece pieces ih =>
    simp only [takeBytes] at h
    split at h
    · cases h
      exact ⟨‹_›, by rw [List.flatten_cons, ← List.append_assoc, List.take_append_drop,
        List.flatten_cons]⟩
    · next hshort =>
      split at h
      · cases h
      · next more _ hmore =>
        cases h
        obtain ⟨hlength, hflatten⟩ := ih hmore
        rw [List.length_take] at hshort hlength
        have hall : piece.take count = piece := List.take_of_length_le (by omega)
        refine ⟨?_, ?_⟩
        · rw [List.length_append, List.length_take]
          omega
        · rw [hall, List.append_assoc, hflatten, List.flatten_cons]

/-- What receiving gives: a message, the end of the stream, or a failure. -/
inductive Received (α : Type)
  | message (value : α) (rest : List Bytes)
  | ended
  | failed (failure : Failure)

/-- A frame that claims to be longer than any may be. -/
def oversized (length : Nat) : Failure :=
  .described ("admin frame of " ++ toString length ++ " bytes exceeds limit")

/-- A frame whose body ends with the stream. -/
def cutShort : Failure := .described "early eof"

/-- Receives one message from the pieces that are still to come before the end of the stream.  Fewer
than four bytes are the end; a body that is cut short is a failure. -/
def receive {α : Type} (reader : Json.Reader α) (pieces : List Bytes) : Received α :=
  match takeBytes 4 pieces with
  | none => .ended
  | some (header, pieces) =>
    let length := lengthOf header
    if maxFrameLength < length then .failed (oversized length)
    else match takeBytes length pieces with
    | none => .failed cutShort
    | some (body, pieces) =>
      match reader.read body with
      | .ok value => .message value pieces
      | .error fault => .failed (.json fault)

theorem length_rest_lt {α : Type} {reader : Json.Reader α} {pieces rest : List Bytes} {value : α}
    (h : receive reader pieces = .message value rest) :
    rest.flatten.length < pieces.flatten.length := by
  unfold receive at h
  split at h
  · cases h
  · next header later hheader =>
    obtain ⟨hlength, hpieces⟩ := takeBytes_eq_some hheader
    simp only at h
    split at h
    · cases h
    · split at h
      · cases h
      · next hbody =>
        obtain ⟨_, hlater⟩ := takeBytes_eq_some hbody
        split at h
        · cases h
          rw [← hpieces, ← hlater, List.length_append, List.length_append]
          omega
        · cases h

/-- All messages of a stream that arrives in pieces, and the failure that ended it, if one did. -/
def receiveEach {α : Type} (reader : Json.Reader α) (pieces : List Bytes) :
    List α × Option Failure :=
  match _h : receive reader pieces with
  | .message value rest =>
    let (messages, failure) := receiveEach reader rest
    (value :: messages, failure)
  | .ended => ([], none)
  | .failed failure => ([], some failure)
termination_by pieces.flatten.length
decreasing_by exact length_rest_lt _h

/-- All messages of a stream that arrives at once. -/
def receiveAll {α : Type} (reader : Json.Reader α) (stream : Bytes) : List α × Option Failure :=
  receiveEach reader [stream]

/-- What a client that waits for a response is told at the end of the stream. -/
def socketClosed : Failure := .described "admin socket closed"

end Supervision.Admin
