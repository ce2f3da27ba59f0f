import Supervision.Proofs.Output.Actions
import Supervision.Proofs.Output.Attribution
import Supervision.Proofs.Output.Styles

/-!
# Colours change no content

A colouring multiplexer puts style sequences around names, notices and errors and changes nothing
else.  With the sequences deleted, the bytes it writes are those of a multiplexer without colours for
the same calls, and every record ends the styles that it selects before its line feed.
-/

namespace Supervision.Output

/-! ## The pieces of a record -/

/-- Content in a style, if there are to be colours. -/
def marked (colorize : Bool) (parameters : String) (content : Bytes) : Bytes :=
  if colorize then Multiplexer.styled parameters content else content

/-- Pieces in a style, if there are to be colours. -/
def framed (colorize : Bool) (parameters : String) (inner : List Piece) : List Piece :=
  if colorize then .style (ascii parameters) :: inner ++ [.style (ascii "0")] else inner

/-- A style around content is taken as a style, and the content as without it. -/
theorem pieces_marked {parameters : String} (colorize : Bool)
    (h : ∀ byte ∈ ascii parameters, isParameter byte = true) (content : Bytes) :
    pieces (marked colorize parameters content) = framed colorize parameters (pieces content) := by
  cases colorize with
  | false => rfl
  | true =>
    have hstyled := pieces_styled_append h content []
    rwa [List.append_nil, pieces] at hstyled

theorem filterMap_framed (colorize : Bool) (parameters : String) (inner : List Piece) :
    (framed colorize parameters inner).filterMap Piece.shown? = inner.filterMap Piece.shown? := by
  cases colorize with
  | false => rfl
  | true =>
    rw [framed, if_pos rfl, List.cons_append, List.filterMap_cons_none rfl, List.filterMap_append]
    exact List.append_nil _

/-- A framed piece ends whatever was selected before it. -/
theorem foldl_framed (parameters : String) (inner : List Piece) (selected : List Bytes) :
    (framed true parameters inner).foldl Piece.select selected = [] := by
  rw [framed, if_pos rfl, List.foldl_append]
  rfl

theorem foldl_shown (bytes : Bytes) (selected : List Bytes) :
    (bytes.map Piece.shown).foldl Piece.select selected = selected := by
  induction bytes with
  | nil => rfl
  | cons byte bytes ih => exact ih

def colorParameters (source : Source) : String := "1;38;5;" ++ toString source.color.toNat

theorem isParameter_of_mem_colorParameters (source : Source) :
    ∀ byte ∈ ascii (colorParameters source), isParameter byte = true := by
  have hbold : (ascii "1;38;5;").all isParameter = true := by decide
  have hcolor : ∀ code < 256, (ascii (toString code)).all isParameter = true := by decide +kernel
  intro byte hmem
  rw [colorParameters, ascii, Text.Utf8.encode_append, List.mem_append] at hmem
  rcases hmem with hmem | hmem
  · exact List.all_eq_true.mp hbold byte hmem
  · exact List.all_eq_true.mp (hcolor source.color.toNat source.color.toNat_lt) byte hmem

namespace Call

/-- The parameters of the style that the content is in, if it is in one. -/
def style? : Call → Option String
  | line _ _ => none
  | status _ _ => some "1"
  | error _ _ => some "0;31"

def body (output : Multiplexer) (call : Call) : Bytes :=
  marked output.colorize (colorParameters call.source) (output.paddedName call.source)
    ++ (ascii " | " ++ call.style?.elim call.content (marked output.colorize · call.content))

theorem record_eq_body (output : Multiplexer) (call : Call) :
    call.record output = call.body output ++ [lineFeed] := by
  have hrecord (source : Source) (line : Bytes) : output.record source line =
      marked output.colorize (colorParameters source) (output.paddedName source)
        ++ (ascii " | " ++ line) ++ [lineFeed] := by
    rw [← List.append_assoc]
    rfl
  cases call <;> exact hrecord _ _

/-- A record is taken as its name, its bar and its content, each framed if there are colours. -/
theorem pieces_body (output : Multiplexer) (call : Call) :
    pieces (call.body output) =
      framed output.colorize (colorParameters call.source) (pieces (output.paddedName call.source))
        ++ ((ascii " | ").map .shown ++
          call.style?.elim (pieces call.content) (framed output.colorize · (pieces call.content))) := by
  have hbar : escapeByte ∉ ascii " | " := by decide
  have hblank (line : Bytes) : ∀ byte ∈ (ascii " | " ++ line).head?, continuesStyle byte = false := by
    intro byte hmem
    obtain rfl := Option.some.inj hmem
    decide
  rw [body, pieces_append (hblank _), pieces_append_of_plain hbar,
    pieces_marked _ (isParameter_of_mem_colorParameters _)]
  cases call with
  | line source content => rfl
  | status source message =>
    rw [style?, Option.elim_some, pieces_marked _ (List.all_eq_true.mp (by decide)), Option.elim_some]
  | error source message =>
    rw [style?, Option.elim_some, pieces_marked _ (List.all_eq_true.mp (by decide)), Option.elim_some]

/-- Without its styles a record is the same whether or not there are to be colours. -/
theorem withoutStyles_body (output : Multiplexer) (call : Call) :
    withoutStyles (call.body output) =
      withoutStyles (output.paddedName call.source) ++ (ascii " | " ++ withoutStyles call.content) := by
  have hcontent : (call.style?.elim (pieces call.content)
      (framed output.colorize · (pieces call.content))).filterMap Piece.shown? =
        withoutStyles call.content := by
    cases call.style? with
    | none => rfl
    | some parameters => exact filterMap_framed ..
  rw [withoutStyles, pieces_body, List.filterMap_append, List.filterMap_append, filterMap_framed,
    hcontent]
  rfl

/-- A record ends every style that it selects, unless a line of output brings its own. -/
theorem openStyles_body {output : Multiplexer} {call : Call} (coloured : output.colorize = true)
    (h : escapeByte ∉ call.content) : openStyles (call.body output) = [] := by
  rw [openStyles, pieces_body, coloured, List.foldl_append, List.foldl_append, foldl_framed,
    foldl_shown, pieces_of_plain h]
  cases call.style? with
  | none => exact foldl_shown ..
  | some parameters => exact foldl_framed ..

end Call

/-! ## Many records -/

/-- No style sequence goes beyond a line feed, so records are taken one by one. -/
theorem pieces_append_lineFeed (bytes more : Bytes) :
    pieces (bytes ++ [lineFeed] ++ more) = pieces bytes ++ .shown lineFeed :: pieces more := by
  have hending : ∀ byte ∈ ([lineFeed] ++ more).head?, continuesStyle byte = false := by
    intro byte hmem
    obtain rfl := Option.some.inj hmem
    decide
  rw [List.append_assoc, pieces_append hending, List.singleton_append, pieces_cons_of_ne (by decide)]

theorem withoutStyles_append_lineFeed (bytes more : Bytes) :
    withoutStyles (bytes ++ [lineFeed] ++ more) =
      withoutStyles bytes ++ lineFeed :: withoutStyles more := by
  rw [withoutStyles, pieces_append_lineFeed, List.filterMap_append]
  rfl

/-- Bytes without an escape stay as they are. -/
theorem withoutStyles_of_plain {bytes : Bytes} (h : escapeByte ∉ bytes) :
    withoutStyles bytes = bytes := by
  rw [withoutStyles, pieces_of_plain h, List.filterMap_map]
  exact List.filterMap_some

/-- A record that ends every style it selects before its line feed. -/
def Neutral (record : Bytes) : Prop := ∃ body, record = body ++ [lineFeed] ∧ openStyles body = []

/-- No style is left open from one neutral record to the next. -/
theorem openStyles_flatten {records : List Bytes} (neutral : ∀ record ∈ records, Neutral record) :
    openStyles records.flatten = [] := by
  induction records with
  | nil => rw [openStyles, List.flatten_nil, pieces, List.foldl_nil]
  | cons record records ih =>
    obtain ⟨⟨body, rfl, hbody⟩, hrest⟩ := List.forall_mem_cons.mp neutral
    rw [List.flatten_cons, openStyles, pieces_append_lineFeed, List.foldl_append]
    change (pieces records.flatten).foldl Piece.select (openStyles body) = []
    rw [hbody]
    exact ih hrest

namespace Multiplexer

/-- Neither the name of the source nor what is written holds an escape. -/
def Action.Plain : Action → Prop
  | connect _ => True
  | write call => escapeByte ∉ Text.Utf8.encode call.source.name ∧ escapeByte ∉ call.content

instance : DecidablePred Action.Plain
  | .connect _ => inferInstanceAs (Decidable True)
  | .write call => inferInstanceAs
      (Decidable (escapeByte ∉ Text.Utf8.encode call.source.name ∧ escapeByte ∉ call.content))

/-- Two multiplexers of one width write the same but for the styles. -/
theorem withoutStyles_records {output other : Multiplexer} (width : output.width = other.width)
    (actions : List Action) :
    withoutStyles (output.records actions).flatten =
      withoutStyles (other.records actions).flatten := by
  induction actions generalizing output other with
  | nil => rfl
  | cons action actions ih =>
    cases action with
    | connect source =>
      have hwidth : (output.connect source).width = (other.connect source).width :=
        congrArg (max · source.name.utf8ByteSize) width
      exact ih hwidth
    | write call =>
      have hwidth : (call.write output).width = (call.write other).width := by
        rw [width_write, width_write, width]
      have hname : output.paddedName call.source = other.paddedName call.source := by
        rw [paddedName, paddedName, width]
      rw [records, records, List.flatten_cons, List.flatten_cons, Call.record_eq_body,
        Call.record_eq_body, withoutStyles_append_lineFeed, withoutStyles_append_lineFeed,
        Call.withoutStyles_body, Call.withoutStyles_body, hname, ih hwidth]

/-- A record without colours holds an escape only where the name or the content does. -/
theorem not_mem_record {output : Multiplexer} (uncoloured : output.colorize = false) {call : Call}
    (h : (Action.write call).Plain) : escapeByte ∉ call.record output := by
  have hblank : ∀ count, escapeByte ∉ List.replicate count (0x20 : UInt8) := fun count hmem ↦
    absurd (List.eq_of_mem_replicate hmem) (by decide)
  have hbar : escapeByte ∉ ascii " | " := by decide
  have hending : escapeByte ∉ [lineFeed] := by decide
  rw [Call.record_eq uncoloured]
  simp only [Call.text, label, paddedName, List.mem_append, not_or]
  exact ⟨⟨⟨⟨h.1, hblank _⟩, hbar⟩, h.2⟩, hending⟩

/-- With the style sequences deleted, a colouring multiplexer has written what a multiplexer without
colours writes for the same actions, and exactly its bytes if no name and no content holds an escape.
The records of the colouring one are neutral then, so that every record begins without a style. -/
theorem colours_change_no_content (acceptance : Acceptance) (actions : List Action) :
    withoutStyles ((start true acceptance).performAll actions).sink.written =
      withoutStyles ((start false acceptance).performAll actions).sink.written ∧
    ((start true acceptance).performAll actions).sink.written =
      (if acceptance.isPositive then ((start true acceptance).records actions).flatten else []) ∧
    ((∀ action ∈ actions, action.Plain) →
      withoutStyles ((start true acceptance).performAll actions).sink.written =
        ((start false acceptance).performAll actions).sink.written ∧
      (∀ record ∈ (start true acceptance).records actions, Neutral record) ∧
      ∀ count, openStyles (((start true acceptance).records actions).take count).flatten = []) := by
  have hwritten (colorize : Bool) :
      ((start colorize acceptance).performAll actions).sink.written =
        if acceptance.isPositive then ((start colorize acceptance).records actions).flatten else [] :=
    written_performAll (start colorize acceptance) actions
  have hwidth : (start true acceptance).width = (start false acceptance).width := rfl
  have hsame : withoutStyles ((start true acceptance).performAll actions).sink.written =
      withoutStyles ((start false acceptance).performAll actions).sink.written := by
    rw [hwritten, hwritten]
    split
    · exact withoutStyles_records hwidth actions
    · rfl
  refine ⟨hsame, hwritten true, fun plain ↦ ?_⟩
  have hneutral : ∀ record ∈ (start true acceptance).records actions, Neutral record := by
    intro record hmem
    obtain ⟨call, hcall, later, coloured, rfl⟩ := exists_call_of_mem_records hmem
    exact ⟨call.body later, call.record_eq_body later,
      Call.openStyles_body coloured (plain _ hcall).2⟩
  refine ⟨hsame.trans (withoutStyles_of_plain ?_), hneutral, fun count ↦ ?_⟩
  · rw [hwritten]
    split
    · intro hmem
      obtain ⟨record, hrecord, hescape⟩ := List.mem_flatten.mp hmem
      obtain ⟨call, hcall, later, uncoloured, rfl⟩ := exists_call_of_mem_records hrecord
      exact not_mem_record uncoloured (plain _ hcall) hescape
    · exact List.not_mem_nil
  · exact openStyles_flatten fun record hmem ↦ hneutral record (List.mem_of_mem_take hmem)

/-- Two sources, a notice that looks like the end of a style, and an error. -/
def sampleActions : List Action :=
  [.connect ⟨"pg", 2⟩, .write (.line ⟨"pg", 2⟩ (ascii "[0m")), .connect ⟨"keeper", 130⟩,
    .write (.status ⟨"pg", 2⟩ "1m;"), .write (.error ⟨"keeper", 130⟩ "boom")]

/-- What looks like the rest of a style sequence stays when the styles are deleted. -/
theorem colours_change_no_content_sample :
    (∀ action ∈ sampleActions, action.Plain) ∧
      withoutStyles ((start true (.atMost 5)).performAll sampleActions).sink.written =
        ascii "pg | [0m\npg     | 1m;\nkeeper | boom\n" ∧
      openStyles ((start true (.atMost 5)).records sampleActions).flatten = [] := by
  have hplain : ∀ action ∈ sampleActions, action.Plain := by decide
  obtain ⟨-, -, hcolours⟩ := colours_change_no_content (.atMost 5) sampleActions
  obtain ⟨hcontent, -, hopen⟩ := hcolours hplain
  refine ⟨hplain, hcontent.trans (by decide +kernel), ?_⟩
  have hall := hopen 3
  rwa [List.take_of_length_le (by decide)] at hall

end Multiplexer

end Supervision.Output
