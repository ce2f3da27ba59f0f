import Supervision.Decimal.Fixed
import Supervision.Host.Escapes
import Supervision.Host.ShownName

/-!
# Formats

A format is text with escapes and directives.  Each directive writes one operand as a text, as a
character or as a number, in a field of some width; a format is used again as long as operands are
left.
-/

namespace Supervision.Host

structure Directive where
  flags : List Char
  width : Nat
  precision : Option Nat
  kind : Char
  deriving Repr

inductive FormatFault
  | notNumeric (operand : String)
  | partlyNumeric (operand : String)
  | outOfRange (operand : String)
  | unknownDirective (text : String)
  | unfinishedDirective (text : String)
  | moreCharacters (text : String)
  | moreOperands (first : String)
  deriving DecidableEq, Repr

/-- Is the format itself at fault, and not an operand? -/
def FormatFault.isOfFormat : FormatFault → Bool
  | unknownDirective _ | unfinishedDirective _ => true
  | _ => false

/-- Is a fault only warned of? -/
def FormatFault.isWarning : FormatFault → Bool
  | moreCharacters _ | moreOperands _ => true
  | _ => false

/-- What a format makes: bytes, and between them what was found wrong. -/
inductive Segment
  | bytes (content : Bytes)
  | fault (fault : FormatFault)
  deriving Repr

/-- A format at work: the operands left, what was made so far, newest first, and whether any operand
was asked for. -/
structure Formatting where
  operands : List String
  output : List Segment
  used : Bool
  ended : Bool
  deriving Repr

namespace Formatting

/-- Takes the next operand, which is empty if there is none. -/
def next (state : Formatting) : String × Formatting :=
  match state.operands with
  | [] => ("", { state with used := true })
  | operand :: rest => (operand, { state with operands := rest, used := true })

def emit (state : Formatting) (bytes : Bytes) : Formatting :=
  { state with output := .bytes bytes :: state.output }

def note (state : Formatting) (fault? : Option FormatFault) : Formatting :=
  { state with output := (fault?.toList.map Segment.fault) ++ state.output }

end Formatting

/-- Bytes in a field, at its end unless a flag says otherwise. -/
def Directive.pad (directive : Directive) (bytes : Bytes) : Bytes :=
  let missing := List.replicate (directive.width - bytes.length) 0x20
  if directive.flags.contains '-' then bytes ++ missing else missing ++ bytes

/-- A number in a field: a sign or another mark, and the digits, perhaps with zeros between them. -/
def Directive.padNumber (directive : Directive) (mayFill : Bool) (mark body : String) : Bytes :=
  let front := Text.Utf8.encode mark
  let back := Text.Utf8.encode body
  let missing := directive.width - (front.length + back.length)
  if directive.flags.contains '0' && !directive.flags.contains '-' && mayFill then
    front ++ List.replicate missing 0x30 ++ back
  else directive.pad (front ++ back)

def Directive.sign (directive : Directive) (negative : Bool) : String :=
  if negative then "-"
  else if directive.flags.contains '+' then "+"
  else if directive.flags.contains ' ' then " "
  else ""

/-- The character code that an operand stands for if it begins with a quote. -/
def quotedCode? (operand : String) : Option Nat :=
  match operand.toList with
  | first :: rest =>
    if first = Char.ofNat 0x27 || first = '"' then
      some ((Text.Utf8.encode (String.ofList rest)).head?.elim 0 UInt8.toNat)
    else none
  | [] => none

/-- What is wrong with an operand of which a part was read as a number. -/
def operandFault? (operand : String) (found : Bool) (rest : List Char) (inRange : Bool) :
    Option FormatFault :=
  if !rest.isEmpty then some (if found then .partlyNumeric operand else .notNumeric operand)
  else if !inRange then some (.outOfRange operand)
  else none

/-- The digits of a number in some base. -/
def digitsOf (base value : Nat) : String := String.ofList (Nat.toDigits base value)

/-- The directives for whole numbers with and without a sign, and for fractions. -/
def signedKinds : List Char := ['d', 'i']

def unsignedKinds : List Char := ['o', 'u', 'x', 'X']

def fractionKinds : List Char := ['e', 'E', 'f', 'F', 'g', 'G']

def formatWhole (directive : Directive) (scanned : Shell.Scanned) : Bytes :=
  let isSigned := signedKinds.contains directive.kind
  let value := if isSigned then scanned.clamped.natAbs else scanned.wrapped
  let body := match directive.kind with
    | 'o' => (if directive.flags.contains '#' && value != 0 then "0" else "") ++ digitsOf 8 value
    | 'x' => digitsOf 16 value
    | 'X' => (digitsOf 16 value).toUpper
    | _ => toString value
  let body := if value = 0 && directive.precision = some 0 then "" else body
  let zeros := (directive.precision.getD 0) - body.length
  let body := String.ofList (List.replicate zeros '0') ++ body
  let marked := directive.flags.contains '#' && value != 0
  let mark :=
    if isSigned then directive.sign (decide (scanned.clamped < 0))
    else if marked && directive.kind = 'x' then "0x"
    else if marked && directive.kind = 'X' then "0X"
    else ""
  directive.padNumber directive.precision.isNone mark body

/-- A number that may have a fraction, as an operand gives it. -/
inductive Fraction
  | finite (value : Float)
  | infinite
  | undefined

/-- A fraction that a text begins with: whether it begins with one, its sign and size, and what
follows it. -/
structure ScannedFraction where
  found : Bool
  negative : Bool
  size : Fraction
  rest : List Char

/-- The power that follows the digits of a fraction, and the text after it. -/
def scanPower (chars : List Char) : Int × List Char :=
  match chars with
  | mark :: rest =>
    if mark = 'e' || mark = 'E' then
      let (negative, digits) := match rest with
        | '-' :: digits => (true, digits)
        | '+' :: digits => (false, digits)
        | _ => (false, rest)
      let taken := digits.takeWhile Char.isDigit
      match (String.ofList taken).toNat? with
      | some power =>
        (if negative then -(power : Int) else power, digits.drop taken.length)
      | none => (0, chars)
    else (0, chars)
  | [] => (0, [])

/-- Reads the fraction that a text begins with. -/
def scanFraction (operand : String) : ScannedFraction :=
  let trimmed := operand.toList.dropWhile Shell.isSpace
  let (negative, unsigned) := match trimmed with
    | '-' :: rest => (true, rest)
    | '+' :: rest => (false, rest)
    | _ => (false, trimmed)
  let word := String.ofList (unsigned.takeWhile Char.isAlpha |>.map Char.toLower)
  if word == "inf" || word == "infinity" then
    ⟨true, negative, .infinite, unsigned.drop word.length⟩
  else if word == "nan" then ⟨true, negative, .undefined, unsigned.drop 3⟩
  else
    let whole := unsigned.takeWhile Char.isDigit
    let (places, rest) := match unsigned.drop whole.length with
      | '.' :: rest =>
        let places := rest.takeWhile Char.isDigit
        if whole.isEmpty && places.isEmpty then ([], '.' :: rest)
        else (places, rest.drop places.length)
      | rest => ([], rest)
    match Shell.splitBase unsigned, (String.ofList (whole ++ places)).toNat? with
    | (16, _), _ =>
      let scanned := Shell.scanNumber unsigned
      ⟨true, negative, .finite (Float.ofNat scanned.magnitude), scanned.rest⟩
    | _, none => ⟨false, false, .finite 0, operand.toList⟩
    | _, some digits =>
      let (power, rest) := scanPower rest
      let power := max (-5000) (min 5000 (power - places.length))
      let value := Float.ofScientific digits (power < 0) power.natAbs
      ⟨true, negative, if value.isInf then .infinite else .finite value, rest⟩

def formatFraction (directive : Directive) (scanned : ScannedFraction) : Bytes :=
  let kept := directive.flags.contains '#'
  let precision := directive.precision.getD 6
  let lower := directive.kind.toLower
  let (mayFill, body) := match scanned.size with
    | .infinite => (false, "inf")
    | .undefined => (false, "nan")
    | .finite value =>
      let bits := value.toBits.toNat
      let chars :=
        if lower = 'f' then Decimal.fixedChars bits precision kept
        else if lower = 'e' then Decimal.scientificChars bits precision kept
        else Decimal.generalChars bits precision kept
      (true, String.ofList chars)
  let body := if directive.kind.isUpper then body.toUpper else body
  directive.padNumber mayFill (directive.sign scanned.negative) body

/-- Writes what a directive makes of the next operand. -/
def applyDirective (dialect : Dialect) (directive : Directive) (state : Formatting) : Formatting :=
  let (operand, state) := state.next
  let cut (bytes : Bytes) : Bytes := directive.precision.elim bytes bytes.take
  match directive.kind with
  | 's' => state.emit (directive.pad (cut (Text.Utf8.encode operand)))
  | 'b' =>
    let (bytes, ended) := unescapeText dialect operand
    { state.emit (directive.pad (cut bytes)) with ended := state.ended || ended }
  | 'q' => state.emit (Text.Utf8.encode (shownIfNeeded operand))
  | 'c' => state.emit (directive.pad [((Text.Utf8.encode operand).head?).getD 0])
  | kind =>
    match quotedCode? operand with
    | some code =>
      let more := operand.toList.drop 2
      let warning? := if dialect = .shell || more.isEmpty then none
        else some (FormatFault.moreCharacters (String.ofList more))
      (state.note warning?).emit
        (if fractionKinds.contains kind then
          formatFraction directive ⟨true, false, .finite (Float.ofNat code), []⟩
        else formatWhole directive ⟨true, false, code, []⟩)
    | none =>
      if fractionKinds.contains kind then
        let scanned := scanFraction operand
        let overflows := scanned.size matches .infinite && operand.toList.any Char.isDigit
        let fault? := operandFault? operand scanned.found scanned.rest !overflows
        (state.note fault?).emit (formatFraction directive scanned)
      else
        let scanned := Shell.scanNumber operand.toList
        let inRange := if signedKinds.contains kind then scanned.clamped == scanned.value
          else scanned.magnitude < 0x10000000000000000
        let fault? := operandFault? operand scanned.found scanned.rest inRange
        (state.note fault?).emit (formatWhole directive scanned)

/-- A number in a directive: digits, or the next operand for a star. -/
def directiveNumber (rest : List Char) (state : Formatting) : Int × List Char × Formatting :=
  match rest with
  | '*' :: rest =>
    let (operand, state) := state.next
    let scanned := Shell.scanNumber operand.toList
    let fault? := operandFault? operand scanned.found scanned.rest (scanned.clamped == scanned.value)
    (scanned.clamped, rest, state.note fault?)
  | _ =>
    let digits := rest.takeWhile Char.isDigit
    ((String.ofList digits).toNat?.getD 0, rest.drop digits.length, state)

/-- Letters that may stand before the kind of a number and say nothing. -/
def isSizeLetter (char : Char) : Bool := ['l', 'h', 'L', 'j', 'z', 't', 'q'].contains char

/-- Goes once through a format; `fuel` bounds its length. -/
def formatOnce (dialect : Dialect) : Nat → List Char → Formatting → Formatting
  | 0, _, state => state
  | _ + 1, [], state => state
  | fuel + 1, char :: rest, state =>
    if state.ended then state
    else if char = '\\' then
      match rest with
      | 'c' :: _ => { state with ended := true }
      | _ =>
        let (bytes, rest) := escape dialect rest
        formatOnce dialect fuel rest (state.emit bytes)
    else if char = '%' then
      match rest with
      | '%' :: rest => formatOnce dialect fuel rest (state.emit [0x25])
      | _ =>
        let flags := rest.takeWhile fun flag => ['-', '+', ' ', '#', '0'].contains flag
        let (width, after, state) := directiveNumber (rest.drop flags.length) state
        let (precision, after, state) := match after with
          | '.' :: after =>
            let (count, after, state) := directiveNumber after state
            (if count < 0 then none else some count.toNat, after, state)
          | _ => (none, after, state)
        let flags := if width < 0 then '-' :: flags else flags
        let sized := if dialect = .shell then after else after.dropWhile isSizeLetter
        let spelling (left : List Char) : String :=
          String.ofList ('%' :: rest.take (rest.length - left.length))
        match sized with
        | [] => { state.note (some (.unfinishedDirective (spelling []))) with ended := true }
        | kind :: left =>
          if ['s', 'b', 'c'].contains kind || (kind = 'q' && dialect = .printing)
              || signedKinds.contains kind || unsignedKinds.contains kind
              || fractionKinds.contains kind then
            formatOnce dialect fuel left
              (applyDirective dialect ⟨flags, width.natAbs, precision, kind⟩ state)
          else { state.note (some (.unknownDirective (spelling left))) with ended := true }
    else
      formatOnce dialect fuel rest
        (state.emit (Text.Utf8.encode (String.ofList [char])))

/-- Uses a format until no operands are left; `fuel` bounds how often. -/
def formatAll (dialect : Dialect) (format : List Char) : Nat → Formatting → Formatting
  | 0, state => state
  | fuel + 1, state =>
    let state :=
      formatOnce dialect (format.length + 1) format { state with used := false }
    if state.ended then state
    else match state.operands with
    | [] => state
    | first :: _ =>
      if !state.used then
        if dialect = .shell then state else state.note (some (.moreOperands first))
      else formatAll dialect format fuel state

/-- What a format makes of its operands. -/
def format (dialect : Dialect) (text : String) (operands : List String) : List Segment :=
  (formatAll dialect text.toList (operands.length + 1) ⟨operands, [], false, false⟩).output.reverse

def segmentBytes (segments : List Segment) : Bytes :=
  segments.flatMap fun segment =>
    match segment with
    | .bytes content => content
    | .fault _ => []

def segmentFaults (segments : List Segment) : List FormatFault :=
  segments.filterMap fun segment =>
    match segment with
    | .bytes _ => none
    | .fault fault => some fault

end Supervision.Host
