import Kaomoji.Diagnostic
import Kaomoji.Diagnostic.Style
import Kaomoji.Text.Lines

/-!
# Reports

A report shows a diagnostic with the source lines that its labels point to:

```text
error[E0001]: unknown token '$'
  --> hello.uwu:2:5
   |
 2 | O.O $
   |     ^ unexpected character
   = note: names may contain letters, digits and `_ ! . @ / \ ~ :`
```

All lines of one report share a gutter, which is one blank wider than the widest line number in
it.  A label whose line does not exist, or a report without a source, has its message on the
locator line instead of a snippet.
-/

namespace Kaomoji

/-- What reports are made from, beside the diagnostic. -/
structure Reporter where
  /-- Whether styles show. -/
  colors : Bool
  /-- The text that labels point into. -/
  source : Option String
  /-- The name of that text. -/
  file : Option String
deriving DecidableEq

/-- A line number as people count; it stays within 32 bits by the bound on positions. -/
def Label.lineNumber (label : Label) : String := toString (label.position.line + 1)

namespace Reporter

open Segment

/-- A number of blanks. -/
def blanks (n : Nat) : String := String.ofList (List.replicate n ' ')

/-- The width that all rows of a report have before their frame. -/
def gutterWidth (labels : List Label) : Nat :=
  ((labels.map fun label => label.lineNumber.length).max?.getD 1) + 1

/-- The source line that a label points to. -/
def sourceLine? (r : Reporter) (label : Label) : Option (List Char) :=
  r.source.bind fun source => (Text.lines source.toList)[label.position.line]?

/-- What stands before the marks of an underline: a tab for each tab of the line, a blank for each
other character, so that the marks stand below the text they belong to. -/
def underlineIndent (column : Nat) (line : List Char) : String :=
  String.ofList ((line.take column).map fun c => if c = '\t' then '\t' else ' ')

/-- The marks below the text of a label. -/
def underline (length : Nat) : String := String.ofList (List.replicate (max length 1) '^')

/-- Where a label points to. -/
def place (r : Reporter) (label : Label) : String :=
  match r.file with
  | some file => s!" {file}:{label.position.text}"
  | none => s!" {label.position.text}"

/-- The three rows that show a source line with a label below it. -/
def snippet (width : Nat) (label : Label) (line : List Char) : List Segment :=
  let number := label.lineNumber
  [ plain (blanks width), styled .frame " |", plain "\n",
    plain (blanks (width - number.length) ++ number), styled .frame " |",
    plain (" " ++ String.ofList line ++ "\n"),
    plain (blanks width), styled .frame " |",
    plain (" " ++ underlineIndent label.position.column line),
    styled .error (underline label.length ++ " " ++ label.message), plain "\n" ]

/-- The locator line of a label and its snippet. -/
def labelSegments (r : Reporter) (width : Nat) (label : Label) : List Segment :=
  [plain (blanks width), styled .frame "-->", plain (r.place label)] ++
    match r.sourceLine? label with
    | some line => plain "\n" :: snippet width label line
    | none => [plain s!": {label.message}\n"]

/-- A remark below the snippets. -/
def remarkSegments (width : Nat) (style : Style) (word text : String) : List Segment :=
  [plain (blanks width ++ " = "), styled style word, plain s!": {text}\n"]

/-- The whole report; it ends in an empty line. -/
def segments (r : Reporter) (d : Diagnostic) : List Segment :=
  let width := gutterWidth d.labels
  [styled .error "error", styled .strong s!"[{d.code.text}]", plain s!": {d.message}\n"] ++
    d.labels.flatMap (r.labelSegments width) ++
    d.notes.flatMap (remarkSegments width .strong "note") ++
    d.suggestions.flatMap (remarkSegments width .help "help") ++
    [plain "\n"]

/-- The report of a diagnostic as it is written. -/
def report (r : Reporter) (d : Diagnostic) : String := paint r.colors (r.segments d)

/-- The closing line of a run with some errors; a run without errors has none. -/
def summarySegments : Nat → List Segment
  | 0 => []
  | 1 => [styled .error "error", plain ": aborting due to previous error\n"]
  | count => [styled .error "error", plain s!": aborting due to {count} previous errors\n"]

/-- The closing line as it is written. -/
def summary (r : Reporter) (count : Nat) : String := paint r.colors (summarySegments count)

end Reporter

end Kaomoji
