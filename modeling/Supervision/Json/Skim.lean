import Supervision.Json.Number
import Supervision.Json.Text

/-!
# Values that are passed over

A value under an unknown name is passed over without being kept.  Its brackets may nest without
limit, so the open ones are kept on a stack.
-/

namespace Supervision.Json

inductive Frame
  | list
  | object
  deriving DecidableEq, Repr

def Frame.closer : Frame → UInt8
  | .list => 0x5d
  | .object => 0x7d

def Frame.missingComma : Frame → Cause
  | .list => .expectedCommaInList
  | .object => .expectedCommaInObject

def Frame.cutShort : Frame → Cause
  | .list => .endInList
  | .object => .endInObject

namespace Reader

def skimName : Reader Unit := do
  match ← peekToken with
  | some 0x22 => skip
  | some _ => failNext .keyNotString
  | none => failNext .endInObject
  skimString
  match ← peekToken with
  | some 0x3a => skip
  | some _ => failNext .expectedColon
  | none => failNext .endInObject

/-- What is looked for: a value, or what may follow one inside the innermost open bracket, where a
comma is allowed only after a value. -/
inductive Sought
  | value
  | following (afterValue : Bool)
  deriving DecidableEq, Repr

/-- Passes over a value and everything up to the end of the outermost open bracket. -/
def skimNested : Nat → List Frame → Sought → Reader Unit
  | 0, _, _ => failNext .endInValue
  | fuel + 1, open_, .value => do
    match ← peekToken with
    | none => failNext .endInValue
    | some 0x6e => skip; expectBytes [0x75, 0x6c, 0x6c]; skimNested fuel open_ (.following true)
    | some 0x74 => skip; expectBytes [0x72, 0x75, 0x65]; skimNested fuel open_ (.following true)
    | some 0x66 =>
      skip; expectBytes [0x61, 0x6c, 0x73, 0x65]; skimNested fuel open_ (.following true)
    | some 0x2d => skip; skimNumber; skimNested fuel open_ (.following true)
    | some 0x22 => skip; skimString; skimNested fuel open_ (.following true)
    | some 0x5b => skip; skimNested fuel (.list :: open_) (.following false)
    | some 0x7b => skip; skimNested fuel (.object :: open_) (.following false)
    | some byte =>
      if isDigit byte then skimNumber; skimNested fuel open_ (.following true)
      else failNext .expectedValue
  | _ + 1, [], .following _ => pure ()
  | fuel + 1, frame :: outer, .following afterValue => do
    let next : Reader Unit := do
      if frame = .object then skimName
      skimNested fuel (frame :: outer) .value
    match ← peekToken with
    | none => failNext frame.cutShort
    | some byte =>
      if byte = 0x2c && afterValue then skip; next
      else if byte = frame.closer then skip; skimNested fuel outer (.following true)
      else if afterValue then failNext frame.missingComma
      else next

def skimValue : Reader Unit := do
  skimNested (2 * (← remaining) + 2) [] .value

end Reader

end Supervision.Json
