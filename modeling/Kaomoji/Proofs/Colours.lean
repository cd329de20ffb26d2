import Kaomoji.Proofs.Labels
import Kaomoji.Proofs.TargetWords

/-!
# Colours only decorate

A text for a terminal is taken apart into its characters and its escape sequences
(`Terminal.pieces`): an escape, a bracket, digits and semicolons, and an `m`.  Painted segments fall
into the pieces that one expects, provided that no text has an escape of its own, which might begin
a sequence anywhere (`pieces_paint`).  So without its sequences a coloured text is the bare one, and
the sequences come in pairs of a style and a reset.

Where the text of a report comes from is gone through in `Reporter.clean_segments`: from the
diagnostic, from the source line and from the file, all of them without escapes by assumption, and
from the reporter itself, which writes numbers, blanks and marks.
-/

namespace Kaomoji

/-! ## Terminal text -/

namespace Terminal

/-- The character that begins an escape sequence. -/
def escape : Char := '\x1b'

/-- What a sequence has between its bracket and its end. -/
def isParameter (c : Char) : Bool := c.isDigit || c = ';'

/-- The parameters of the sequence at the head of a text, and what stands behind it. -/
def headSequence? : List Char → Option (List Char × List Char)
  | first :: '[' :: rest =>
    match rest.dropWhile isParameter with
    | 'm' :: later => if first = escape then some (rest.takeWhile isParameter, later) else none
    | _ => none
  | _ => none

/-- A sequence at the head is an escape, a bracket, its parameters and an `m`. -/
lemma eq_of_headSequence? {text parameters later : List Char}
    (h : headSequence? text = some (parameters, later)) :
    text = escape :: '[' :: (parameters ++ 'm' :: later) := by
  unfold headSequence? at h
  split at h
  · rename_i first rest
    split at h
    · rename_i later' hdrop
      split_ifs at h with hfirst
      cases h
      rw [hfirst, ← hdrop, List.takeWhile_append_dropWhile]
    · cases h
  · cases h

lemma length_lt_of_headSequence? {text parameters later : List Char}
    (h : headSequence? text = some (parameters, later)) : later.length < text.length := by
  rw [eq_of_headSequence? h]
  simp only [List.length_cons, List.length_append]
  omega

/-- A part of a text for a terminal. -/
inductive Piece where
  | char (c : Char)
  | sequence (parameters : List Char)
deriving DecidableEq

/-- **A text for a terminal, taken apart.** -/
def pieces (text : List Char) : List Piece :=
  match h : headSequence? text with
  | some (parameters, later) =>
    have := length_lt_of_headSequence? h
    .sequence parameters :: pieces later
  | none =>
    match text with
    | [] => []
    | c :: rest => .char c :: pieces rest
termination_by text.length

def Piece.char? : Piece → Option Char
  | char c => some c
  | sequence _ => none

def Piece.parameters? : Piece → Option (List Char)
  | char _ => none
  | sequence parameters => some parameters

/-- What remains of a text without its sequences. -/
def deleteSequences (text : List Char) : List Char := (pieces text).filterMap Piece.char?

/-- The sequences of a text, each by its parameters. -/
def sequences (text : List Char) : List (List Char) := (pieces text).filterMap Piece.parameters?

/-- The parameters of the sequence that ends any style. -/
def reset : List Char := ['0']

/-- **Every style that is opened is reset** before the next one opens and before the end. -/
inductive Closed : List (List Char) → Prop
  | nil : Closed []
  | pair {opening : List Char} {later : List (List Char)} (hopening : opening ≠ reset)
      (hlater : Closed later) : Closed (opening :: reset :: later)

lemma pieces_nil : pieces [] = [] := by
  rw [pieces]
  rfl

lemma pieces_cons_of_ne {c : Char} (hc : c ≠ escape) (rest : List Char) :
    pieces (c :: rest) = .char c :: pieces rest := by
  rw [pieces]
  split
  · rename_i parameters later hhead
    have hescape : c = escape := (List.cons.inj (eq_of_headSequence? hhead)).1
    exact absurd hescape hc
  · rfl

/-- Text without escapes falls into its characters. -/
lemma pieces_append {text : List Char} (htext : escape ∉ text) (rest : List Char) :
    pieces (text ++ rest) = text.map .char ++ pieces rest := by
  induction text with
  | nil => rfl
  | cons c text ih =>
    rw [List.mem_cons, not_or] at htext
    rw [List.cons_append, pieces_cons_of_ne (Ne.symm htext.1), ih htext.2]
    rfl

lemma headSequence?_of_parameters {parameters : List Char} (hall : parameters.all isParameter)
    (rest : List Char) :
    headSequence? (escape :: '[' :: (parameters ++ 'm' :: rest)) = some (parameters, rest) := by
  have hmem := List.all_eq_true.1 hall
  have hend : ¬isParameter 'm' := by decide
  have hdrop : (parameters ++ 'm' :: rest).dropWhile isParameter = 'm' :: rest := by
    rw [List.dropWhile_append_of_pos hmem, List.dropWhile_cons_of_neg hend]
  have htake : (parameters ++ 'm' :: rest).takeWhile isParameter = parameters := by
    rw [List.takeWhile_append_of_pos hmem, List.takeWhile_cons_of_neg hend, List.append_nil]
  simp only [headSequence?, hdrop, htake, if_true]

lemma pieces_sequence {parameters : List Char} (hall : parameters.all isParameter)
    (rest : List Char) :
    pieces (escape :: '[' :: (parameters ++ 'm' :: rest)) =
      .sequence parameters :: pieces rest := by
  have hhead := headSequence?_of_parameters hall rest
  rw [pieces]
  split
  · rename_i heq
    cases heq.symm.trans hhead
    rfl
  · rename_i heq
    cases heq.symm.trans hhead

end Terminal

open Terminal

/-! ## Painted segments -/

/-- The parameters of the sequence that begins a style. -/
def Style.parameters (style : Style) : List Char := (style.sequence.toList.drop 2).dropLast

lemma Style.toList_sequence (style : Style) :
    style.sequence.toList = escape :: '[' :: (style.parameters ++ ['m']) := by
  cases style <;> decide +kernel

lemma Style.all_parameters (style : Style) : style.parameters.all isParameter := by
  cases style <;> decide +kernel

lemma Style.parameters_ne_reset (style : Style) : style.parameters ≠ reset := by
  cases style <;> decide +kernel

/-- The text has no escape, so that no sequence begins in it. -/
def Clean (text : String) : Prop := escape ∉ text.toList

instance (text : String) : Decidable (Clean text) := inferInstanceAs (Decidable (_ ∉ _))

namespace Segment

/-- The pieces of a segment in colours. -/
def pieces (segment : Segment) : List Piece :=
  match segment.style with
  | some style =>
    .sequence style.parameters :: (segment.text.toList.map .char ++ [.sequence reset])
  | none => segment.text.toList.map .char

lemma toList_paint_false (segment : Segment) :
    (segment.paint false).toList = segment.text.toList := by
  rcases segment with ⟨_ | style, text⟩ <;> rfl

lemma pieces_paint_true_append {segment : Segment} (h : Clean segment.text) (rest : List Char) :
    Terminal.pieces ((segment.paint true).toList ++ rest) =
      segment.pieces ++ Terminal.pieces rest := by
  rcases segment with ⟨_ | style, text⟩
  · exact pieces_append h rest
  · have hreset : resetSequence.toList = escape :: '[' :: (reset ++ ['m']) := by decide +kernel
    have hall : reset.all isParameter := by decide
    show Terminal.pieces ((style.sequence ++ text ++ resetSequence).toList ++ rest) = _
    rw [String.toList_append, String.toList_append, style.toList_sequence, hreset]
    simp only [List.cons_append, List.append_assoc, List.nil_append, pieces]
    rw [pieces_sequence style.all_parameters, pieces_append h, pieces_sequence hall]

lemma filterMap_char?_pieces (segment : Segment) :
    segment.pieces.filterMap Piece.char? = segment.text.toList := by
  have hchars : (Piece.char? ∘ Piece.char) = some := rfl
  rcases segment with ⟨_ | style, text⟩ <;>
    simp [pieces, Piece.char?, List.filterMap_cons, List.filterMap_map, hchars]

lemma filterMap_parameters?_pieces (segment : Segment) :
    segment.pieces.filterMap Piece.parameters? =
      segment.style.elim [] fun style => [style.parameters, reset] := by
  have hchars : (Piece.parameters? ∘ Piece.char) = fun _ => none := rfl
  rcases segment with ⟨_ | style, text⟩ <;>
    simp [pieces, Piece.parameters?, List.filterMap_map, hchars]

end Segment

/-- **Painted segments fall into the pieces of each.** -/
lemma pieces_paint {segments : List Segment} (h : ∀ segment ∈ segments, Clean segment.text) :
    pieces (paint true segments).toList = segments.flatMap Segment.pieces := by
  induction segments with
  | nil => exact pieces_nil
  | cons segment segments ih =>
    rw [List.forall_mem_cons] at h
    rw [paint_cons, String.toList_append, Segment.pieces_paint_true_append h.1, ih h.2,
      List.flatMap_cons]

lemma toList_paint_false (segments : List Segment) :
    (paint false segments).toList = segments.flatMap (·.text.toList) := by
  induction segments with
  | nil => rfl
  | cons segment segments ih =>
    rw [paint_cons, String.toList_append, segment.toList_paint_false, ih, List.flatMap_cons]

/-- Without its sequences a coloured text is the bare one. -/
lemma deleteSequences_paint {segments : List Segment}
    (h : ∀ segment ∈ segments, Clean segment.text) :
    deleteSequences (paint true segments).toList = (paint false segments).toList := by
  rw [deleteSequences, pieces_paint h, toList_paint_false, List.filterMap_flatMap]
  simp only [Segment.filterMap_char?_pieces]

lemma closed_flatMap_style (segments : List Segment) :
    Closed (segments.flatMap fun segment =>
      segment.style.elim [] fun style => [style.parameters, reset]) := by
  induction segments with
  | nil => exact .nil
  | cons segment segments ih =>
    -- A plain segment has no sequence, a styled one brings its reset along.
    rcases segment with ⟨_ | style, text⟩
    · exact ih
    · exact .pair style.parameters_ne_reset ih

/-- In a coloured text every style is reset. -/
lemma closed_sequences_paint {segments : List Segment}
    (h : ∀ segment ∈ segments, Clean segment.text) :
    Closed (sequences (paint true segments).toList) := by
  rw [sequences, pieces_paint h, List.filterMap_flatMap]
  simp only [Segment.filterMap_parameters?_pieces]
  exact closed_flatMap_style segments

/-! ## Texts without escapes -/

@[simp]
lemma clean_append {first second : String} :
    Clean (first ++ second) ↔ Clean first ∧ Clean second := by
  rw [Clean, String.toList_append, List.mem_append, not_or]
  rfl

@[simp]
lemma clean_ofList {text : List Char} : Clean (String.ofList text) ↔ escape ∉ text := by
  rw [Clean, String.toList_ofList]

@[simp]
lemma clean_repr (n : Nat) : Clean n.repr := by
  intro hmem
  rw [Nat.toList_repr] at hmem
  have hdigit : escape.isDigit := Decimal.isDigit_of_mem_digits hmem
  revert hdigit
  decide

@[simp]
lemma Position.clean_text (position : Position) : Clean position.text := by
  simp +decide [text, toString]

@[simp]
lemma ErrorCode.clean_text (code : ErrorCode) : Clean code.text := by
  cases code <;> decide +kernel

/-- A line has no characters but those of its text. -/
lemma Text.mem_of_mem_lines {text line : List Char} {c : Char} (hline : line ∈ lines text)
    (hc : c ∈ line) : c ∈ text := by
  fun_induction lines text generalizing line <;> grind

/-- All that a diagnostic says is without escapes. -/
structure Diagnostic.AllClean (d : Diagnostic) : Prop where
  message : Clean d.message
  labels : ∀ label ∈ d.labels, Clean label.message
  notes : ∀ note ∈ d.notes, Clean note
  suggestions : ∀ suggestion ∈ d.suggestions, Clean suggestion

namespace Reporter

/-! ## What a reporter writes -/

@[simp]
lemma clean_blanks (n : Nat) : Clean (blanks n) := by
  rw [blanks, clean_ofList]
  exact fun h => absurd (List.eq_of_mem_replicate h) (by decide)

@[simp]
lemma clean_underline (length : Nat) : Clean (underline length) := by
  rw [underline, clean_ofList]
  exact fun h => absurd (List.eq_of_mem_replicate h) (by decide)

@[simp]
lemma clean_underlineIndent (column : Nat) (line : List Char) :
    Clean (underlineIndent column line) := by
  rw [underlineIndent, clean_ofList, List.mem_map]
  rintro ⟨c, -, hc⟩
  split at hc <;> exact absurd hc (by decide)

lemma clean_snippet {label : Label} {line : List Char} (hlabel : Clean label.message)
    (hline : escape ∉ line) (width : Nat) :
    ∀ segment ∈ snippet width label line, Clean segment.text := by
  simp +decide [snippet, Label.lineNumber, Segment.plain, Segment.styled, hlabel, hline]

lemma clean_remarkSegments {word text : String} (hword : Clean word) (htext : Clean text)
    (width : Nat) (style : Style) :
    ∀ segment ∈ remarkSegments width style word text, Clean segment.text := by
  simp +decide [remarkSegments, Segment.plain, Segment.styled, toString, hword, htext]

section

variable {r : Reporter}

lemma clean_place (hfile : ∀ file ∈ r.file, Clean file) (label : Label) :
    Clean (r.place label) := by
  rw [place]
  split
  · rename_i file heq
    simp +decide [toString, hfile file heq]
  · simp +decide [toString]

/-- A line that a label points to is a line of the source. -/
lemma notMem_sourceLine? (hsource : ∀ source ∈ r.source, Clean source) {label : Label}
    {line : List Char} (hline : r.sourceLine? label = some line) : escape ∉ line := by
  obtain ⟨source, hmem, hget⟩ := Option.bind_eq_some_iff.1 hline
  intro hescape
  exact hsource source hmem (Text.mem_of_mem_lines (List.mem_of_getElem? hget) hescape)

lemma clean_labelSegments (hsource : ∀ source ∈ r.source, Clean source)
    (hfile : ∀ file ∈ r.file, Clean file) {label : Label} (hlabel : Clean label.message)
    (width : Nat) : ∀ segment ∈ r.labelSegments width label, Clean segment.text := by
  rw [labelSegments, List.forall_mem_append]
  constructor
  · simp +decide [Segment.plain, Segment.styled, clean_place hfile]
  · split
    · rename_i line hline
      rw [List.forall_mem_cons]
      exact ⟨by decide, clean_snippet hlabel (notMem_sourceLine? hsource hline) width⟩
    · simp +decide [Segment.plain, toString, hlabel]

/-- **A report has no escape but those of its styles**, if none was in what it is made from. -/
lemma clean_segments (hsource : ∀ source ∈ r.source, Clean source)
    (hfile : ∀ file ∈ r.file, Clean file) {d : Diagnostic} (hd : d.AllClean) :
    ∀ segment ∈ r.segments d, Clean segment.text := by
  simp only [segments, List.forall_mem_append, List.forall_mem_flatMap]
  refine ⟨⟨⟨⟨?_, ?_⟩, ?_⟩, ?_⟩, ?_⟩
  · simp +decide [Segment.plain, Segment.styled, toString, hd.message]
  · exact fun label hlabel => clean_labelSegments hsource hfile (hd.labels label hlabel) _
  · exact fun note hnote => clean_remarkSegments (by decide) (hd.notes note hnote) _ _
  · exact fun suggestion hsuggestion =>
      clean_remarkSegments (by decide) (hd.suggestions suggestion hsuggestion) _ _
  · simp +decide

end

lemma clean_summarySegments (count : Nat) :
    ∀ segment ∈ summarySegments count, Clean segment.text := by
  fun_cases summarySegments count <;> simp +decide [Segment.plain, Segment.styled, toString]

/-! ## A sequence of requests -/

/-- What a reporter is asked to write. -/
inductive Request where
  | report (d : Diagnostic)
  | summary (count : Nat)
deriving DecidableEq

/-- What is asked for is without escapes. -/
def Request.AllClean : Request → Prop
  | report d => d.AllClean
  | summary _ => True

/-- What is written for a request. -/
def answer (r : Reporter) : Request → String
  | .report d => r.report d
  | .summary count => r.summary count

/-- All that is written for requests one after another. -/
def written (r : Reporter) (requests : List Request) : String :=
  String.join (requests.map r.answer)

def requestSegments (r : Reporter) : Request → List Segment
  | .report d => r.segments d
  | .summary count => summarySegments count

lemma answer_eq_paint (r : Reporter) (request : Request) :
    r.answer request = paint r.colors (r.requestSegments request) := by
  cases request <;> rfl

lemma written_eq_paint (r : Reporter) (requests : List Request) :
    r.written requests = paint r.colors (requests.flatMap r.requestSegments) := by
  induction requests with
  | nil => rfl
  | cons request requests ih =>
    rw [List.flatMap_cons, paint_append, ← ih, ← answer_eq_paint, written, List.map_cons,
      String.join_cons]
    rfl

lemma clean_requestSegments {r : Reporter} (hsource : ∀ source ∈ r.source, Clean source)
    (hfile : ∀ file ∈ r.file, Clean file) {request : Request} (hrequest : request.AllClean) :
    ∀ segment ∈ r.requestSegments request, Clean segment.text := by
  cases request with
  | report d => exact clean_segments hsource hfile hrequest
  | summary count => exact clean_summarySegments count

/-- **Colours only decorate.**  What is written with colours for any requests, from any source and
file or none, is without its sequences what is written bare, provided that no text that goes in has
an escape; and every style in it is reset before the next one opens and before the end. -/
theorem deleteSequences_written {source file : Option String} {requests : List Request}
    (hsource : ∀ text ∈ source, Clean text) (hfile : ∀ name ∈ file, Clean name)
    (hrequests : ∀ request ∈ requests, request.AllClean) :
    deleteSequences (written ⟨true, source, file⟩ requests).toList =
        (written ⟨false, source, file⟩ requests).toList ∧
      Closed (sequences (written ⟨true, source, file⟩ requests).toList) := by
  -- The segments are chosen without regard to colours.
  have hsegments : requestSegments ⟨false, source, file⟩ =
      requestSegments ⟨true, source, file⟩ := by
    funext request
    cases request <;> rfl
  have hclean : ∀ segment ∈ requests.flatMap (requestSegments ⟨true, source, file⟩),
      Clean segment.text := by
    rw [List.forall_mem_flatMap]
    exact fun request hrequest => clean_requestSegments hsource hfile (hrequests request hrequest)
  rw [written_eq_paint, written_eq_paint, hsegments]
  exact ⟨deleteSequences_paint hclean, closed_sequences_paint hclean⟩

/-- A note may look like a sequence as long as it has no escape. -/
theorem deleteSequences_written_bracketed_note :
    let source := some "O.O\n\t$\n"
    let file := some "a.uwu"
    let requests : List Request :=
      [.report ⟨.unknownCharacter, "unknown", [⟨⟨1, 1, 5⟩, 1, "here"⟩], ["[0m"], ["drop it"]⟩,
        .summary 0, .summary 1]
    written ⟨true, source, file⟩ requests =
        "\x1b[1;31merror\x1b[0m\x1b[1m[E0001]\x1b[0m: unknown\n" ++
        "  \x1b[1;34m-->\x1b[0m a.uwu:2:2\n" ++
        "  \x1b[1;34m |\x1b[0m\n" ++
        " 2\x1b[1;34m |\x1b[0m \t$\n" ++
        "  \x1b[1;34m |\x1b[0m \t\x1b[1;31m^ here\x1b[0m\n" ++
        "   = \x1b[1mnote\x1b[0m: [0m\n" ++
        "   = \x1b[1;32mhelp\x1b[0m: drop it\n\n" ++
        "\x1b[1;31merror\x1b[0m: aborting due to previous error\n" ∧
      deleteSequences (written ⟨true, source, file⟩ requests).toList =
        (written ⟨false, source, file⟩ requests).toList ∧
      Closed (sequences (written ⟨true, source, file⟩ requests).toList) := by
  refine ⟨by decide +kernel, deleteSequences_written ?_ ?_ ?_⟩
  · rintro text ⟨⟩
    decide
  · rintro name ⟨⟩
    decide
  · simp only [List.forall_mem_cons, Request.AllClean]
    exact ⟨⟨by decide, by decide, by decide, by decide⟩, trivial, trivial, by simp⟩

end Reporter

end Kaomoji
