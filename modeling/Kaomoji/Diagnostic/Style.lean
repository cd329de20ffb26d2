/-!
# Coloured text

Text for a terminal is built as a list of segments, each plain or in a style.  Only when it is
painted is it decided whether styles show: with colours each styled segment is preceded by the
escape sequence of its style and followed by the one that resets, without colours it is written
bare.  Colours can thus never change anything but the look.
-/

namespace Kaomoji

/-- When colours are used. -/
inductive ColorMode where
  /-- On a terminal only. -/
  | auto
  | always
  | never
deriving DecidableEq

namespace ColorMode

/-- Every mode. -/
def all : List ColorMode := [auto, always, never]

/-- The mode as options name it. -/
def name : ColorMode → String
  | auto => "auto"
  | always => "always"
  | never => "never"

/-- The mode with a name. -/
def ofName? (name : String) : Option ColorMode := all.find? fun mode => mode.name == name

/-- What is said of a name that belongs to no mode. -/
def unknownMessage (name : String) : String :=
  s!"invalid color mode '{name}' (expected auto, always or never)"

/-- Whether colours are used, given whether the output is a terminal. -/
def useColors (mode : ColorMode) (terminal : Bool) : Bool :=
  match mode with
  | auto => terminal
  | always => true
  | never => false

end ColorMode

/-- The styles of a report. -/
inductive Style where
  /-- The word that announces an error, and what is underlined. -/
  | error
  /-- The word that announces a suggestion. -/
  | help
  /-- Error codes and the word that announces a note. -/
  | strong
  /-- The frame of a snippet. -/
  | frame
deriving DecidableEq

/-- The escape sequence that begins a style. -/
def Style.sequence : Style → String
  | .error => "\x1b[1;31m"
  | .help => "\x1b[1;32m"
  | .strong => "\x1b[1m"
  | .frame => "\x1b[1;34m"

/-- The escape sequence that ends any style. -/
def resetSequence : String := "\x1b[0m"

/-- A stretch of text in one look. -/
structure Segment where
  style : Option Style
  text : String
deriving DecidableEq

namespace Segment

/-- A stretch without style. -/
def plain (text : String) : Segment := ⟨none, text⟩

/-- A stretch in a style. -/
def styled (style : Style) (text : String) : Segment := ⟨some style, text⟩

/-- The stretch as it is written. -/
def paint (colors : Bool) (segment : Segment) : String :=
  match segment.style with
  | some style =>
    if colors then style.sequence ++ segment.text ++ resetSequence else segment.text
  | none => segment.text

end Segment

/-- Segments as they are written one after another. -/
def paint (colors : Bool) (segments : List Segment) : String :=
  String.join (segments.map (Segment.paint colors))

theorem paint_cons (colors : Bool) (segment : Segment) (segments : List Segment) :
    paint colors (segment :: segments) = segment.paint colors ++ paint colors segments := by
  rw [paint, paint, List.map_cons, String.join_cons]

theorem paint_append (colors : Bool) (first second : List Segment) :
    paint colors (first ++ second) = paint colors first ++ paint colors second := by
  rw [paint, paint, paint, List.map_append, String.join_append]

end Kaomoji
