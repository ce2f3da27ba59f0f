import Supervision.Json.Skim

/-!
# Reading documents by type

A document is read straight into the type asked for, so that a fault names what stood there and
what was expected.  Records may be written as objects, whose unknown members are passed over, or as
lists of their members in order.
-/

namespace Supervision.Json.Reader

/-- Fails because the next value is not what was expected, after taking it if it is a scalar. -/
def wrongType {α : Type} (expected : String) : Reader α := placed do
  let fail {β : Type} (found : Found) : Reader β := failUnplaced (.wrongType found expected)
  match ← peek with
  | some 0x6e => skip; expectBytes [0x75, 0x6c, 0x6c]; fail .null
  | some 0x74 => skip; expectBytes [0x72, 0x75, 0x65]; fail (.boolean true)
  | some 0x66 => skip; expectBytes [0x61, 0x6c, 0x73, 0x65]; fail (.boolean false)
  | some 0x2d => skip; fail (← number false).found
  | some 0x22 => skip; fail (.string (← stringBody))
  | some 0x5b => fail .sequence
  | some 0x7b => fail .map
  | some byte => if isDigit byte then fail (← number true).found else failNext .expectedValue
  | none => failNext .expectedValue

/-- A string, and what is made of it. -/
def textWith {α : Type} (expected : String) (use : String → Reader α) : Reader α := placed do
  match ← peekToken with
  | none => failNext .endInValue
  | some 0x22 => skip; use (← stringBody)
  | some _ => wrongType expected

def text : Reader String := textWith "a string" pure

def path : Reader String := textWith "path string" pure

def integer (expected : String) (least greatest : Int) : Reader Int := placed do
  let accept (number : Number) : Reader Int :=
    match number with
    | .unsigned value =>
      if (value : Int) ≤ greatest then pure value
      else failUnplaced (.wrongValue (.integer value) expected)
    | .negative value =>
      if least ≤ value then pure value
      else failUnplaced (.wrongValue (.integer value) expected)
    | .floating _ => failUnplaced (.wrongType number.found expected)
  match ← peekToken with
  | none => failNext .endInValue
  | some 0x2d => skip; accept (← number false)
  | some byte => if isDigit byte then accept (← number true) else wrongType expected

def word64 : Reader Nat := Int.toNat <$> integer "u64" 0 0xffffffffffffffff

def word32 : Reader UInt32 :=
  (fun value => value.toNat.toUInt32) <$> integer "u32" 0 0xffffffff

def integer32 : Reader Int := integer "i32" (-0x80000000) 0x7fffffff

/-- A value, or none for `null`. -/
def optional {α : Type} (reader : Reader α) : Reader (Option α) := do
  match ← peekToken with
  | some 0x6e => skip; expectBytes [0x75, 0x6c, 0x6c]; pure none
  | _ => some <$> reader

/-- The value `null` where nothing else makes sense. -/
def unit : Reader Unit := do
  match ← peekToken with
  | none => failNext .endInValue
  | some 0x6e => skip; expectBytes [0x75, 0x6c, 0x6c]
  | some _ => wrongType "unit"

def moreElements (first : Bool) : Reader Bool := do
  match ← peekToken with
  | none => failNext .endInList
  | some 0x5d => pure false
  | some byte =>
    if first then pure true
    else if byte = 0x2c then
      skip
      match ← peekToken with
      | some 0x5d => failNext .trailingComma
      | some _ => pure true
      | none => failNext .endInValue
    else failNext .expectedCommaInList

def closeList : Reader Unit := do
  match ← peekToken with
  | some 0x5d => skip
  | some 0x2c =>
    skip
    match ← peekToken with
    | some 0x5d => failNext .trailingComma
    | _ => failNext .trailingCharacters
  | some _ => failNext .trailingCharacters
  | none => failNext .endInList

def moreMembers (first : Bool) : Reader Bool := do
  match ← peekToken with
  | none => failNext .endInObject
  | some 0x7d => pure false
  | some byte =>
    if first then
      if byte = 0x22 then pure true else failNext .keyNotString
    else if byte = 0x2c then
      skip
      match ← peekToken with
      | some 0x22 => pure true
      | some 0x7d => failNext .trailingComma
      | some _ => failNext .keyNotString
      | none => failNext .endInValue
    else failNext .expectedCommaInObject

def closeObject : Reader Unit := do
  match ← peekToken with
  | some 0x7d => skip
  | some 0x2c => failNext .trailingComma
  | some _ => failNext .trailingCharacters
  | none => failNext .endInObject

/-- The name of a member, whose opening quote comes next. -/
def memberName : Reader String := do
  skip
  stringBody

def colon : Reader Unit := do
  match ← peekToken with
  | some 0x3a => skip
  | some _ => failNext .expectedColon
  | none => failNext .endInObject

/-- The elements of a list up to its end, those already read with the newest first. -/
def elements {α : Type} (element : Reader α) : Nat → Bool → List α → Reader (List α)
  | 0, _, _ => failNext .endInList
  | fuel + 1, first, done => do
    if ← moreElements first then
      let value ← element
      elements element fuel false (value :: done)
    else pure done.reverse

def list {α : Type} (element : Reader α) : Reader (List α) := placed do
  match ← peekToken with
  | none => failNext .endInValue
  | some 0x5b =>
    enclosed (do skip; elements element ((← remaining) + 1) true []) closeList
  | some _ => wrongType "a sequence"

/-- The members of a map up to its end, those already read with the newest first. -/
def entries {α : Type} (value : Reader α) :
    Nat → Bool → List (String × α) → Reader (List (String × α))
  | 0, _, _ => failNext .endInObject
  | fuel + 1, first, done => do
    if ← moreMembers first then
      let name ← memberName
      colon
      let content ← value
      entries value fuel false ((name, content) :: done)
    else pure done.reverse

def map {α : Type} (value : Reader α) : Reader (List (String × α)) := placed do
  match ← peekToken with
  | none => failNext .endInValue
  | some 0x7b =>
    enclosed (do skip; entries value ((← remaining) + 1) true []) closeObject
  | some _ => wrongType "a map"

/-- A member of a record under construction: whether it is there, how it is read, and what happens
without it, in an object and in a list that ends before it. -/
structure Member (σ : Type) where
  name : String
  isSet : σ → Bool
  read : σ → Reader σ
  absent : σ → Except Cause σ
  short : σ → Option σ

/-- A member that must be there. -/
def Member.required {σ α : Type} (name : String) (get : σ → Option α) (set : α → σ → σ)
    (reader : Reader α) : Member σ where
  name
  isSet := fun record => (get record).isSome
  read := fun record => (fun value => set value record) <$> reader
  absent := fun _ => .error (.missingField name)
  short := fun _ => none

/-- A member that may be left out for a default. -/
def Member.orElse {σ α : Type} (name : String) (get : σ → Option α) (set : α → σ → σ)
    (default : α) (reader : Reader α) : Member σ where
  name
  isSet := fun record => (get record).isSome
  read := fun record => (fun value => set value record) <$> reader
  absent := fun record => .ok (set default record)
  short := fun record => some (set default record)

/-- A member that an object may leave out for nothing, but a list may not. -/
def Member.nullable {σ α : Type} (name : String) (get : σ → Option (Option α))
    (set : Option α → σ → σ) (reader : Reader α) : Member σ where
  name
  isSet := fun record => (get record).isSome
  read := fun record => (fun value => set value record) <$> optional reader
  absent := fun record => .ok (set none record)
  short := fun _ => none

/-- The members of an object up to its end. -/
def objectMembers {σ : Type} (members : List (Member σ)) : Nat → Bool → σ → Reader σ
  | 0, _, _ => failNext .endInObject
  | fuel + 1, first, record => do
    if ← moreMembers first then
      let name ← memberName
      match members.find? (·.name == name) with
      | some member =>
        if member.isSet record then failUnplaced (.duplicateField name)
        else
          colon
          objectMembers members fuel false (← member.read record)
      | none =>
        colon
        skimValue
        objectMembers members fuel false record
    else pure record

/-- Settles every member that an object left out. -/
def settleMembers {σ : Type} : List (Member σ) → σ → Reader σ
  | [], record => pure record
  | member :: more, record =>
    if member.isSet record then settleMembers more record
    else match member.absent record with
    | .ok record => settleMembers more record
    | .error cause => failUnplaced cause

/-- The members of a record written as a list. -/
def listMembers {σ : Type} (expected : String) : Nat → Bool → List (Member σ) → σ → Reader σ
  | _, _, [], record => pure record
  | index, first, member :: more, record => do
    if ← moreElements first then
      listMembers expected (index + 1) false more (← member.read record)
    else match member.short record with
    | some record => listMembers expected (index + 1) first more record
    | none => failUnplaced (.wrongLength index expected)

/-- How many members a message counts. -/
def countText (count : Nat) : String :=
  toString count ++ (if count = 1 then " element" else " elements")

/-- A record with the given members, begun from an empty one. -/
def record {σ : Type} (expected : String) (members : List (Member σ)) (blank : σ) : Reader σ :=
  placed do
    match ← peekToken with
    | none => failNext .endInValue
    | some 0x5b =>
      let counted := expected ++ " with " ++ countText members.length
      enclosed (do skip; listMembers counted 0 true members blank) closeList
    | some 0x7b =>
      enclosed
        (do
          skip
          let record ← objectMembers members ((← remaining) + 1) true blank
          settleMembers members record)
        closeObject
    | some _ => wrongType expected

/-- What follows the name of a variant: nothing, or a record. -/
inductive Variant (α : Type)
  | plain (value : α)
  | record (read : Reader α)

def variantName {α : Type} (known : List (String × Variant α)) : Reader (Variant α) :=
  textWith "variant identifier" fun name =>
    match known.find? (·.1 == name) with
    | some (_, variant) => pure variant
    | none => failUnplaced (.unknownVariant name (known.map (·.1)))

/-- One of several variants: a name alone, or an object with the name and what belongs to it. -/
def variant {α : Type} (known : List (String × Variant α)) : Reader α := do
  match ← peekToken with
  | none => failNext .endInValue
  | some 0x22 =>
    match ← variantName known with
    | .plain value => pure value
    | .record _ => failUnplaced (.wrongType .unitVariant "struct variant")
  | some 0x7b =>
    skip
    match ← peekToken with
    | some 0x22 => pure ()
    | some 0x7d => failNext .expectedValue
    | some _ => failNext .keyNotString
    | none => failNext .endInObject
    let chosen ← variantName known
    colon
    let value ← match chosen with
      | .plain value => unit *> pure value
      | .record read => read
    match ← peekToken with
    | some 0x7d => skip; pure value
    | some _ => failHere .expectedValue
    | none => failHere .endInObject
  | some _ => failNext .expectedValue

/-- How deep brackets may nest in a value that is kept. -/
def maxDepth : Nat := 128

/-- Passes over members with names, each with its value. -/
def anyMembers (value : Reader Unit) : Nat → Bool → Reader Unit
  | 0, _ => failNext .endInObject
  | fuel + 1, first => do
    if ← moreMembers first then
      let _ ← memberName
      colon
      value
      anyMembers value fuel false
    else pure ()

/-- Any value, with fewer than so many nested brackets. -/
def anyValue : Nat → Reader Unit
  | 0 => failNext .tooDeep
  | depth + 1 => do
    match ← peekToken with
    | none => failNext .endInValue
    | some 0x6e => skip; expectBytes [0x75, 0x6c, 0x6c]
    | some 0x74 => skip; expectBytes [0x72, 0x75, 0x65]
    | some 0x66 => skip; expectBytes [0x61, 0x6c, 0x73, 0x65]
    | some 0x2d => skip; let _ ← number false
    | some 0x22 => skip; let _ ← stringBody
    | some 0x5b =>
      if depth = 0 then failNext .tooDeep
      else
        enclosed
          (do skip; let _ ← elements (anyValue depth) ((← remaining) + 1) true [])
          closeList
    | some 0x7b =>
      if depth = 0 then failNext .tooDeep
      else
        enclosed (do skip; anyMembers (anyValue depth) ((← remaining) + 1) true) closeObject
    | some byte =>
      if isDigit byte then let _ ← number true
      else failNext .expectedValue

end Supervision.Json.Reader
