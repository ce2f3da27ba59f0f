import Supervision.Json.Fault
import Supervision.Text.Utf8

/-!
# Cursors over JSON documents

A cursor holds what remains of a document and the place reached in it.  Faults about a byte that
was only looked at are placed just behind that byte; faults found after taking a byte are placed
where the cursor stands.
-/

namespace Supervision.Json

/-- What remains of a document, and where. -/
structure Cursor where
  rest : Bytes
  line : Nat
  column : Nat
  deriving DecidableEq, Repr

namespace Cursor

def ofBytes (document : Bytes) : Cursor := ⟨document, 1, 0⟩

def place (cursor : Cursor) : Place := ⟨cursor.line, cursor.column⟩

def advance (cursor : Cursor) : Cursor :=
  match cursor.rest with
  | [] => cursor
  | byte :: rest =>
    if byte = 0x0a then ⟨rest, cursor.line + 1, 0⟩ else ⟨rest, cursor.line, cursor.column + 1⟩

def advanceBy (cursor : Cursor) : Nat → Cursor
  | 0 => cursor
  | count + 1 => cursor.advance.advanceBy count

theorem length_rest_advance (cursor : Cursor) :
    cursor.advance.rest.length = cursor.rest.length - 1 := by
  unfold advance
  split
  · simp [*]
  · split <;> simp [*]

theorem length_rest_advanceBy (cursor : Cursor) (count : Nat) :
    (cursor.advanceBy count).rest.length = cursor.rest.length - count := by
  induction count generalizing cursor with
  | zero => rfl
  | succ count ih => rw [advanceBy, ih, length_rest_advance]; omega

/-- The blanks that may stand between tokens. -/
def isGap (byte : UInt8) : Bool := byte == 0x20 || byte == 0x0a || byte == 0x0d || byte == 0x09

/-- Takes bytes as long as they are blanks. -/
def skipGaps (cursor : Cursor) : Cursor :=
  match _h : cursor.rest with
  | [] => cursor
  | byte :: _ => if isGap byte then cursor.advance.skipGaps else cursor
termination_by cursor.rest.length
decreasing_by
  rw [length_rest_advance, _h, List.length_cons]
  omega

end Cursor

/-- A reader takes a cursor on and gives a value or a fault; after a fault the cursor still says
how far the reading came. -/
abbrev Reader := EStateM Fault Cursor

namespace Reader

/-- Fails where the cursor stands. -/
def failHere {α : Type} (cause : Cause) : Reader α := fun cursor =>
  .error ⟨cause, some cursor.place⟩ cursor

/-- Fails just behind the next byte, or at the end of the document. -/
def failNext {α : Type} (cause : Cause) : Reader α := fun cursor =>
  .error ⟨cause, some cursor.advance.place⟩ cursor

/-- Fails without a place. -/
def failUnplaced {α : Type} (cause : Cause) : Reader α := fun cursor =>
  .error ⟨cause, none⟩ cursor

/-- The next byte, which stays. -/
def peek : Reader (Option UInt8) := fun cursor => .ok cursor.rest.head? cursor

/-- Takes the next byte. -/
def skip : Reader Unit := fun cursor => .ok () cursor.advance

def take : Reader (Option UInt8) := fun cursor => .ok cursor.rest.head? cursor.advance

/-- The next byte that is no blank, which stays. -/
def peekToken : Reader (Option UInt8) := fun cursor =>
  let cursor := cursor.skipGaps
  .ok cursor.rest.head? cursor

def remaining : Reader Nat := fun cursor => .ok cursor.rest.length cursor

/-- Takes the given bytes, one at a time. -/
def expectBytes : Bytes → Reader Unit
  | [] => pure ()
  | expected :: more => do
    match ← take with
    | none => failHere .endInValue
    | some byte => if byte = expected then expectBytes more else failHere .expectedIdent

/-- Places a fault that has no place yet. -/
def placed {α : Type} (reader : Reader α) : Reader α := fun cursor =>
  match reader cursor with
  | .ok value cursor => .ok value cursor
  | .error fault cursor =>
    .error { fault with place := fault.place.or (some cursor.place) } cursor

/-- Reads the inside of brackets and then their end, which is tried even after a fault inside; the
first fault counts and is placed, if it has no place yet, where the end left the cursor. -/
def enclosed {α : Type} (inside : Reader α) (close : Reader Unit) : Reader α := fun cursor =>
  let settle (fault : Fault) (cursor : Cursor) : EStateM.Result Fault Cursor α :=
    .error { fault with place := fault.place.or (some cursor.place) } cursor
  match inside cursor with
  | .ok value cursor =>
    match close cursor with
    | .ok _ cursor => .ok value cursor
    | .error fault cursor => settle fault cursor
  | .error fault cursor =>
    match close cursor with
    | .ok _ cursor => settle fault cursor
    | .error _ cursor => settle fault cursor

/-- Nothing but blanks may follow. -/
def finish : Reader Unit := do
  match ← peekToken with
  | none => pure ()
  | some _ => failNext .trailingCharacters

def read {α : Type} (reader : Reader α) (document : Bytes) : Except Fault α :=
  match (do let value ← reader; finish; pure value : Reader α) (.ofBytes document) with
  | .ok value _ => .ok value
  | .error fault _ => .error fault

end Reader

end Supervision.Json
