import Supervision.Output.Multiplexer

/-!
# Style sequences

A terminal takes an escape, a bracket, digits and semicolons, and the letter after them for one
sequence that selects a style, and shows every other byte.  Bytes fall into pieces of these two kinds
from left to right, and what follows a piece is taken apart on its own.
-/

namespace Supervision.Output

/-- What a terminal makes of some bytes: it shows one, or it selects a style. -/
inductive Piece
  | shown (byte : UInt8)
  | style (parameters : Bytes)
  deriving DecidableEq, Repr

def isParameter (byte : UInt8) : Bool := (0x30 ≤ byte && byte ≤ 0x39) || byte == 0x3b

/-- May the byte stand in a style sequence after the escape? -/
def continuesStyle (byte : UInt8) : Bool := byte == 0x5b || isParameter byte || byte == 0x6d

/-- What follows a byte that must come first. -/
def after? (byte : UInt8) : Bytes → Option Bytes
  | [] => none
  | first :: rest => if first = byte then some rest else none

/-- The parameters of the style sequence whose escape stands before the bytes, and what follows the
letter at its end. -/
def styleEnd? (bytes : Bytes) : Option (Bytes × Bytes) :=
  (after? 0x5b bytes).bind fun inner =>
    (after? 0x6d (inner.dropWhile isParameter)).map fun rest => (inner.takeWhile isParameter, rest)

theorem after?_cons (byte : UInt8) (rest : Bytes) : after? byte (byte :: rest) = some rest :=
  if_pos rfl

theorem length_le_of_after? {byte : UInt8} {bytes rest : Bytes} (h : after? byte bytes = some rest) :
    rest.length ≤ bytes.length := by
  cases bytes with
  | nil => cases h
  | cons first bytes =>
    obtain ⟨-, heq⟩ := Option.ite_none_right_eq_some.mp h
    obtain rfl := Option.some.inj heq
    exact Nat.le_succ _

theorem length_le_of_styleEnd? {bytes parameters rest : Bytes}
    (h : styleEnd? bytes = some (parameters, rest)) : rest.length ≤ bytes.length := by
  obtain ⟨inner, hinner, hend⟩ := Option.bind_eq_some_iff.mp h
  obtain ⟨more, hmore, heq⟩ := Option.map_eq_some_iff.mp hend
  obtain ⟨-, rfl⟩ := Prod.mk.inj heq
  calc
    more.length ≤ (inner.dropWhile isParameter).length := length_le_of_after? hmore
    _ ≤ inner.length := (List.dropWhile_suffix isParameter).length_le
    _ ≤ bytes.length := length_le_of_after? hinner

/-- The bytes as a terminal takes them. -/
def pieces : Bytes → List Piece
  | [] => []
  | byte :: rest =>
    if byte = escapeByte then
      match _h : styleEnd? rest with
      | some (parameters, more) => .style parameters :: pieces more
      | none => .shown byte :: pieces rest
    else .shown byte :: pieces rest
termination_by bytes => bytes.length
decreasing_by
  · have := length_le_of_styleEnd? _h
    simp only [List.length_cons]
    omega
  · simp
  · simp

def Piece.shown? : Piece → Option UInt8
  | shown byte => some byte
  | style _ => none

/-- The bytes with every style sequence deleted. -/
def withoutStyles (bytes : Bytes) : Bytes := (pieces bytes).filterMap Piece.shown?

/-- The styles that are selected after a piece.  Nothing but zeros ends all of them. -/
def Piece.select (selected : List Bytes) : Piece → List Bytes
  | shown _ => selected
  | style parameters =>
    if parameters.all fun byte => byte == 0x30 || byte == 0x3b then []
    else selected ++ [parameters]

/-- The styles that are still selected at the end of the bytes. -/
def openStyles (bytes : Bytes) : List Bytes := (pieces bytes).foldl Piece.select []

/-! ## Taking bytes apart -/

theorem pieces_cons_of_ne {byte : UInt8} (h : byte ≠ escapeByte) (rest : Bytes) :
    pieces (byte :: rest) = .shown byte :: pieces rest := by
  rw [pieces, if_neg h]

theorem pieces_escape_some {rest parameters more : Bytes}
    (h : styleEnd? rest = some (parameters, more)) :
    pieces (escapeByte :: rest) = .style parameters :: pieces more := by
  rw [pieces, if_pos rfl]
  split
  · next heq =>
    rw [h] at heq
    obtain ⟨rfl, rfl⟩ := Prod.mk.inj (Option.some.inj heq)
    rfl
  · next heq => exact absurd (h.symm.trans heq) nofun

/-- An escape that begins no style sequence is shown. -/
theorem pieces_escape_none {rest : Bytes} (h : styleEnd? rest = none) :
    pieces (escapeByte :: rest) = .shown escapeByte :: pieces rest := by
  rw [pieces, if_pos rfl]
  split
  · next heq => exact absurd (h.symm.trans heq) nofun
  · rfl

/-- Bytes without an escape are shown, whatever follows them. -/
theorem pieces_append_of_plain {bytes : Bytes} (h : escapeByte ∉ bytes) (more : Bytes) :
    pieces (bytes ++ more) = bytes.map .shown ++ pieces more := by
  induction bytes with
  | nil => rfl
  | cons byte bytes ih =>
    obtain ⟨hbyte, hbytes⟩ := not_or.mp (mt List.mem_cons.mpr h)
    rw [List.cons_append, pieces_cons_of_ne (Ne.symm hbyte), ih hbytes]
    rfl

/-- Bytes without an escape are shown as they are. -/
theorem pieces_of_plain {bytes : Bytes} (h : escapeByte ∉ bytes) :
    pieces bytes = bytes.map .shown := by
  have hpieces := pieces_append_of_plain h []
  rwa [List.append_nil, pieces, List.append_nil] at hpieces

theorem after?_append {byte : UInt8} {more : Bytes} (h : more.head? ≠ some byte) (bytes : Bytes) :
    after? byte (bytes ++ more) = (after? byte bytes).map (· ++ more) := by
  cases bytes with
  | nil =>
    cases more with
    | nil => rfl
    | cons first more => exact if_neg fun heq ↦ h (congrArg some heq)
  | cons first bytes =>
    rw [List.cons_append, after?, after?]
    split <;> rfl

/-- A style sequence that is not complete does not become so by bytes that cannot stand in one. -/
theorem styleEnd?_append {more : Bytes} (h : ∀ byte ∈ more.head?, continuesStyle byte = false)
    (bytes : Bytes) :
    styleEnd? (bytes ++ more) = (styleEnd? bytes).map fun (parameters, rest) ↦
      (parameters, rest ++ more) := by
  have hbracket : more.head? ≠ some 0x5b := fun heq ↦ absurd (h _ heq) (by decide)
  have hletter : more.head? ≠ some 0x6d := fun heq ↦ absurd (h _ heq) (by decide)
  have hparameter : more.dropWhile isParameter = more ∧ more.takeWhile isParameter = [] := by
    cases more with
    | nil => exact ⟨rfl, rfl⟩
    | cons byte more =>
      have hbyte : ¬isParameter byte = true := by
        have hnot := h byte rfl
        simp only [continuesStyle, Bool.or_eq_false_iff] at hnot
        simp [hnot.1.2]
      exact ⟨List.dropWhile_cons_of_neg hbyte, List.takeWhile_cons_of_neg hbyte⟩
  have hdrop (inner : Bytes) :
      (inner ++ more).dropWhile isParameter = inner.dropWhile isParameter ++ more := by
    rw [List.dropWhile_append, hparameter.1]
    split
    · next hempty => rw [List.isEmpty_iff.mp hempty, List.nil_append]
    · rfl
  have htake (inner : Bytes) : (inner ++ more).takeWhile isParameter = inner.takeWhile isParameter := by
    rw [List.takeWhile_append, hparameter.2, List.append_nil]
    split
    · next hlength => exact ((List.takeWhile_prefix _).eq_of_length hlength).symm
    · rfl
  rw [styleEnd?, styleEnd?, after?_append hbracket]
  cases after? 0x5b bytes with
  | none => rfl
  | some inner =>
    rw [Option.map_some, Option.bind_some, Option.bind_some, hdrop, htake, after?_append hletter,
      Option.map_map, Option.map_map]
    rfl

/-- What bytes are taken for does not depend on others after them that cannot stand in a style
sequence. -/
theorem pieces_append {more : Bytes} (h : ∀ byte ∈ more.head?, continuesStyle byte = false)
    (bytes : Bytes) : pieces (bytes ++ more) = pieces bytes ++ pieces more := by
  induction bytes using pieces.induct with
  | case1 => rw [List.nil_append, pieces, List.nil_append]
  | case2 rest parameters beyond hend ih =>
    have hlonger : styleEnd? (rest ++ more) = some (parameters, beyond ++ more) := by
      rw [styleEnd?_append h, hend]
      rfl
    rw [List.cons_append, pieces_escape_some hlonger, pieces_escape_some hend, ih, List.cons_append]
  | case3 rest hend ih =>
    have hlonger : styleEnd? (rest ++ more) = none := by
      rw [styleEnd?_append h, hend]
      rfl
    rw [List.cons_append, pieces_escape_none hlonger, pieces_escape_none hend, ih, List.cons_append]
  | case4 byte rest hbyte ih =>
    rw [List.cons_append, pieces_cons_of_ne hbyte, pieces_cons_of_ne hbyte, ih, List.cons_append]

/-! ## Styles that a multiplexer selects -/

/-- A style sequence of digits and semicolons is one piece, whatever follows. -/
theorem pieces_style_append {parameters : String}
    (h : ∀ byte ∈ ascii parameters, isParameter byte = true) (more : Bytes) :
    pieces (style parameters ++ more) = .style (ascii parameters) :: pieces more := by
  have hbytes : ascii ("[" ++ parameters ++ "m") = 0x5b :: (ascii parameters ++ [0x6d]) := by
    simp only [ascii, Text.Utf8.encode_append]
    rfl
  rw [style, hbytes, List.cons_append, List.cons_append, List.append_assoc]
  apply pieces_escape_some
  have hletter : ¬isParameter 0x6d = true := by decide
  have hdrop : (ascii parameters ++ ([0x6d] ++ more)).dropWhile isParameter = 0x6d :: more := by
    rw [List.dropWhile_append_of_pos h]
    exact List.dropWhile_cons_of_neg hletter
  have htake : (ascii parameters ++ ([0x6d] ++ more)).takeWhile isParameter = ascii parameters := by
    rw [List.takeWhile_append_of_pos h, List.singleton_append, List.takeWhile_cons_of_neg hletter,
      List.append_nil]
  rw [styleEnd?, after?_cons, Option.bind_some, hdrop, after?_cons, Option.map_some, htake]

/-- Content between a style and its end keeps its pieces. -/
theorem pieces_styled_append {parameters : String}
    (h : ∀ byte ∈ ascii parameters, isParameter byte = true) (content more : Bytes) :
    pieces (Multiplexer.styled parameters content ++ more) =
      .style (ascii parameters) :: pieces content ++ .style (ascii "0") :: pieces more := by
  have hescape : ∀ byte ∈ (plain ++ more).head?, continuesStyle byte = false := by
    intro byte hmem
    obtain rfl := Option.some.inj hmem
    decide
  rw [Multiplexer.styled, List.append_assoc, List.append_assoc, pieces_style_append h,
    pieces_append hescape, plain, pieces_style_append (List.all_eq_true.mp (by decide))]
  rfl

end Supervision.Output
