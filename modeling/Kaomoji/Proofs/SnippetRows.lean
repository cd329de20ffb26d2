import Kaomoji.Diagnostic.Report
import Mathlib.Data.List.Forall2
import Mathlib.Order.Bounds.Basic

/-!
# The rows of a snippet

A report shows each label by a locator line and, if the line it points to exists, by three rows.  A
row is what stands before the frame, the frame, and what stands behind it.  The width before the
frame is settled for all labels of a report before any of them is drawn, and the row with the line
number is then filled up from its own number; that the frames stand below each other means that no
number is wider than what was settled (`isGreatest_gutterWidth`, `Drawing.Shows.margin_length`).

The indent of an underline follows the text of the line, and it ends with the line where the column
lies beyond it: `length_underlineIndent` and `getElem?_underlineIndent` say what it is, character by
character.
-/

namespace Kaomoji

/-! ## Text without colours -/

lemma paint_false_cons (segment : Segment) (segments : List Segment) :
    paint false (segment :: segments) = segment.text ++ paint false segments := by
  rw [paint_cons]
  rcases segment with ⟨_ | style, text⟩ <;> rfl

lemma paint_flatMap {α : Type} (colors : Bool) (segmentsOf : α → List Segment) (items : List α) :
    paint colors (items.flatMap segmentsOf) =
      String.join (items.map fun item => paint colors (segmentsOf item)) := by
  induction items with
  | nil => rfl
  | cons item items ih => rw [List.flatMap_cons, paint_append, ih, List.map_cons, String.join_cons]

/-- What a report begins with: the line that names the error. -/
def Diagnostic.headline (d : Diagnostic) (colors : Bool) : String :=
  paint colors
    [.styled .error "error", .styled .strong s!"[{d.code.text}]", .plain s!": {d.message}\n"]

namespace Reporter

/-! ## Rows and drawings -/

/-- A row of a snippet: what stands before its frame and what stands behind it. -/
structure Row where
  margin : String
  content : String

/-- The row as it is written. -/
def Row.text (row : Row) : String := row.margin ++ " |" ++ row.content ++ "\n"

/-- A label drawn with its source line. -/
structure Drawing where
  locator : String
  /-- The row above the source line. -/
  opening : Row
  /-- The row of the source line. -/
  sourceRow : Row
  /-- The row of the underline. -/
  underlineRow : Row

namespace Drawing

def rows (drawing : Drawing) : List Row :=
  [drawing.opening, drawing.sourceRow, drawing.underlineRow]

/-- The drawing as it is written. -/
def text (drawing : Drawing) : String :=
  drawing.locator ++ "\n" ++ String.join (drawing.rows.map Row.text)

/-- **How a label looks with its source line** in a report with margins of a width. -/
structure Shows (drawing : Drawing) (r : Reporter) (width : Nat) (label : Label)
    (shown : List Char) : Prop where
  /-- What stands before the frame is as wide in every row. -/
  margin_length : ∀ row ∈ drawing.rows, row.margin.length = width
  locator_eq : drawing.locator = blanks width ++ "-->" ++ r.place label
  opening_eq : drawing.opening = ⟨blanks width, ""⟩
  /-- The line number stands at the right, behind at least one blank. -/
  number_eq : ∃ padding > 0, padding + label.lineNumber.length = width ∧
    drawing.sourceRow.margin = blanks padding ++ label.lineNumber
  /-- The line is shown as it is. -/
  source_eq : drawing.sourceRow.content = " " ++ String.ofList shown
  /-- The underline is indented up to its column or to the end of the line, by tabs below tabs and
  else by blanks; it has a mark for each character, and at least one. -/
  underline_eq : ∃ indent : List Char,
    drawing.underlineRow = ⟨blanks width, " " ++ String.ofList indent ++
      String.ofList (List.replicate (max label.length 1) '^') ++ " " ++ label.message⟩ ∧
    indent.length = min label.position.column shown.length ∧
    ∀ i < indent.length, indent[i]? = some (if shown[i]? = some '\t' then '\t' else ' ')

end Drawing

/-- The drawing of a label with its source line. -/
def drawing (r : Reporter) (width : Nat) (label : Label) (line : List Char) : Drawing where
  locator := blanks width ++ "-->" ++ r.place label
  opening := ⟨blanks width, ""⟩
  sourceRow :=
    ⟨blanks (width - label.lineNumber.length) ++ label.lineNumber, " " ++ String.ofList line⟩
  underlineRow := ⟨blanks width, " " ++ underlineIndent label.position.column line ++
    underline label.length ++ " " ++ label.message⟩

lemma paint_snippet (r : Reporter) (width : Nat) (label : Label) (line : List Char) :
    paint false (snippet width label line) =
      String.join ((r.drawing width label line).rows.map Row.text) := by
  simp only [snippet, paint_false_cons, Segment.plain, Segment.styled, Drawing.rows, drawing,
    List.map_cons, List.map_nil, String.join_cons, Row.text, String.append_assoc]
  rfl

/-! ## Widths and indents -/

@[simp]
lemma length_blanks (n : Nat) : (blanks n).length = n := by
  rw [blanks, String.length_ofList, List.length_replicate]

/-- **The margins are one wider than the widest line number.** -/
lemma isGreatest_gutterWidth {labels : List Label} (h : labels ≠ []) :
    IsGreatest {n | ∃ label ∈ labels, n = label.lineNumber.length + 1} (gutterWidth labels) := by
  obtain ⟨widest, hwidest⟩ : ∃ n, (labels.map (·.lineNumber.length)).max? = some n := by
    rw [← Option.ne_none_iff_exists', Ne, List.max?_eq_none_iff, List.map_eq_nil_iff]
    exact h
  have hwidth : gutterWidth labels = widest + 1 := by rw [gutterWidth, hwidest, Option.getD_some]
  obtain ⟨hmem, hle⟩ := List.max?_eq_some_iff.1 hwidest
  rw [hwidth]
  constructor
  · obtain ⟨label, hlabel, rfl⟩ := List.mem_map.1 hmem
    exact ⟨label, hlabel, rfl⟩
  · rintro n ⟨label, hlabel, rfl⟩
    exact Nat.succ_le_succ (hle _ (List.mem_map_of_mem hlabel))

lemma lineNumber_length_lt_gutterWidth {labels : List Label} {label : Label} (h : label ∈ labels) :
    label.lineNumber.length < gutterWidth labels :=
  (isGreatest_gutterWidth (List.ne_nil_of_mem h)).2 ⟨label, h, rfl⟩

lemma toList_underlineIndent (column : Nat) (shown : List Char) :
    (underlineIndent column shown).toList =
      (shown.take column).map fun c => if c = '\t' then '\t' else ' ' :=
  String.toList_ofList

lemma length_underlineIndent (column : Nat) (shown : List Char) :
    (underlineIndent column shown).toList.length = min column shown.length := by
  rw [toList_underlineIndent, List.length_map, List.length_take]

lemma getElem?_underlineIndent {column : Nat} {shown : List Char} {i : Nat}
    (h : i < (underlineIndent column shown).toList.length) :
    (underlineIndent column shown).toList[i]? =
      some (if shown[i]? = some '\t' then '\t' else ' ') := by
  rw [length_underlineIndent, Nat.lt_min] at h
  rw [toList_underlineIndent, List.getElem?_map, List.getElem?_take_of_lt h.1,
    List.getElem?_eq_getElem h.2]
  simp only [Option.map_some, Option.some.injEq]

/-! ## What is drawn -/

/-- The drawing of a label is what it should look like, if its line number leaves room for a
blank. -/
lemma drawing_shows (r : Reporter) {width : Nat} {label : Label}
    (h : label.lineNumber.length < width) (line : List Char) :
    (r.drawing width label line).Shows r width label line where
  margin_length := by
    -- what is filled up is a number narrower than the margin, so the subtraction is exact
    have hnumber :
        (blanks (width - label.lineNumber.length) ++ label.lineNumber).length = width := by
      rw [String.length_append, length_blanks, Nat.sub_add_cancel h.le]
    simp [Drawing.rows, drawing, hnumber]
  locator_eq := rfl
  opening_eq := rfl
  number_eq := ⟨width - label.lineNumber.length, Nat.sub_pos_of_lt h, Nat.sub_add_cancel h.le, rfl⟩
  source_eq := rfl
  underline_eq := by
    refine ⟨(underlineIndent label.position.column line).toList, ?_, length_underlineIndent _ _,
      fun _ => getElem?_underlineIndent⟩
    rw [String.ofList_toList]
    rfl

/-- **What is written for a label**: its drawing, or its message on the locator line if there is no
line to show. -/
def Draws (r : Reporter) (width : Nat) (label : Label) (text : String) : Prop :=
  match r.sourceLine? label with
  | some line => ∃ drawing : Drawing, text = drawing.text ∧ drawing.Shows r width label line
  | none => text = blanks width ++ "-->" ++ r.place label ++ ": " ++ label.message ++ "\n"

lemma draws_paint_labelSegments (r : Reporter) {width : Nat} {label : Label}
    (h : label.lineNumber.length < width) :
    r.Draws width label (paint false (r.labelSegments width label)) := by
  rw [Draws, labelSegments, paint_append]
  cases r.sourceLine? label with
  | some line =>
    refine ⟨r.drawing width label line, ?_, r.drawing_shows h line⟩
    rw [paint_false_cons (.plain "\n"), r.paint_snippet, Drawing.text]
    simp only [paint_false_cons, Segment.plain, Segment.styled, drawing, String.append_assoc]
    rfl
  | none =>
    simp only [paint_false_cons, Segment.plain, Segment.styled, String.append_assoc]
    rfl

/-- What stands below the labels: notes, suggestions and the empty line at the end. -/
def remarks (d : Diagnostic) (width : Nat) : String :=
  String.join (d.notes.map fun note => blanks width ++ " = note: " ++ note ++ "\n") ++
    String.join (d.suggestions.map fun suggestion =>
      blanks width ++ " = help: " ++ suggestion ++ "\n") ++ "\n"

lemma paint_remarkSegments (width : Nat) (style : Style) (word text : String) :
    paint false (remarkSegments width style word text) =
      blanks width ++ " = " ++ word ++ ": " ++ text ++ "\n" := by
  simp only [remarkSegments, paint_false_cons, Segment.plain, Segment.styled, String.append_assoc]
  rfl

/-- A report without colours: the labels stand between the headline and the remarks. -/
lemma report_eq_join (source file : Option String) (d : Diagnostic) :
    report ⟨false, source, file⟩ d =
      d.headline false ++
        String.join (d.labels.map fun label =>
          paint false (labelSegments ⟨false, source, file⟩ (gutterWidth d.labels) label)) ++
        remarks d (gutterWidth d.labels) := by
  rw [report, segments]
  simp only [paint_append, paint_flatMap, paint_remarkSegments, remarks, String.append_assoc]
  rfl

/-- **A report of one label whose line exists is drawn with that line.** -/
lemma exists_drawing_of_labels_eq {source file : Option String} {d : Diagnostic} {label : Label}
    {line : List Char} (hlabels : d.labels = [label])
    (hline : sourceLine? ⟨false, source, file⟩ label = some line) :
    ∃ drawing : Drawing,
      drawing.Shows ⟨false, source, file⟩ (label.lineNumber.length + 1) label line ∧
      report ⟨false, source, file⟩ d =
        d.headline false ++ drawing.text ++ remarks d (label.lineNumber.length + 1) := by
  have hwidth : gutterWidth d.labels = label.lineNumber.length + 1 := by
    rw [hlabels]
    rfl
  have hdraws :=
    draws_paint_labelSegments ⟨false, source, file⟩ (Nat.lt_add_one label.lineNumber.length)
  rw [Draws, hline] at hdraws
  obtain ⟨drawing, htext, hshows⟩ := hdraws
  refine ⟨drawing, hshows, ?_⟩
  rw [report_eq_join, hwidth, hlabels, List.map_singleton, htext, String.join_cons,
    String.join_nil, String.append_empty]

/-- **A report shows its labels in order, all with margins of one width.**  The width is one more
than the widest line number has digits, so that every line number has room before its frame.  A
label whose line exists has a locator line and three rows: the frame, the line as it is, and the
marks below the text of the label with its message; a label without a line has its message on the
locator line. -/
theorem exists_report_eq_drawn (source file : Option String) (d : Diagnostic) :
    (d.labels ≠ [] → IsGreatest {n | ∃ label ∈ d.labels, n = label.lineNumber.length + 1}
      (gutterWidth d.labels)) ∧
    ∃ drawn, report ⟨false, source, file⟩ d =
        d.headline false ++ String.join drawn ++ remarks d (gutterWidth d.labels) ∧
      List.Forall₂ (Draws ⟨false, source, file⟩ (gutterWidth d.labels)) d.labels drawn := by
  refine ⟨isGreatest_gutterWidth, d.labels.map fun label =>
    paint false (labelSegments ⟨false, source, file⟩ (gutterWidth d.labels) label), ?_, ?_⟩
  · exact report_eq_join source file d
  · rw [List.forall₂_map_right_iff, List.forall₂_same]
    intro label hlabel
    exact draws_paint_labelSegments _ (lineNumber_length_lt_gutterWidth hlabel)

/-- A label without a line counts for the width too, and a column beyond its line is brought back to
the end of the line. -/
theorem exists_report_eq_drawn_three_widths :
    let source := some "\tx $\n\n\n\n\n\n\n\n\nab\n"
    let d : Diagnostic := ⟨.unknownCharacter, "unknown", [⟨⟨0, 3, 3⟩, 1, "here"⟩,
      ⟨⟨9, 5, 19⟩, 0, "there"⟩, ⟨⟨99, 0, 120⟩, 2, "nowhere"⟩], [], []⟩
    report ⟨false, source, none⟩ d =
        "error[E0001]: unknown\n" ++
        "    --> 1:4\n" ++
        "     |\n" ++
        "   1 | \tx $\n" ++
        "     | \t  ^ here\n" ++
        "    --> 10:6\n" ++
        "     |\n" ++
        "  10 | ab\n" ++
        "     |   ^ there\n" ++
        "    --> 100:1: nowhere\n\n" ∧
      IsGreatest {n | ∃ label ∈ d.labels, n = label.lineNumber.length + 1} 4 := by
  intro source d
  have hwidth : gutterWidth d.labels = 4 := by decide +kernel
  exact ⟨by decide +kernel, hwidth ▸ (exists_report_eq_drawn source none d).1 (by simp [d])⟩

end Reporter

end Kaomoji
