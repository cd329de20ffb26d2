import Kaomoji.ErrorCode
import Kaomoji.Position

/-!
# Diagnostics

A diagnostic is everything there is to say about an error before it is decided how to show it: the
code, the message, labels that point into the source, notes and suggestions.  All diagnostics are
errors; there are no warnings.
-/

namespace Kaomoji

/-- A remark on a stretch of one source line. -/
structure Label where
  /-- Where the stretch begins. -/
  position : Position
  /-- How many characters it has; at least one is underlined. -/
  length : Nat
  message : String
deriving DecidableEq

/-- An error with all that explains it. -/
structure Diagnostic where
  code : ErrorCode
  message : String
  labels : List Label := []
  notes : List String := []
  suggestions : List String := []
deriving DecidableEq

namespace Diagnostic

/-- Where the error was found: the place of the first label. -/
def primary? (d : Diagnostic) : Option Position := d.labels.head?.map Label.position

/-- The lines of the short form, which needs no source text. -/
def textLines (d : Diagnostic) : List String :=
  s!"error [{d.code.text}]: {d.message}" ::
    (d.labels.map fun label => s!"  --> {label.position.text}: {label.message}") ++
    (d.notes.map fun note => s!"  = note: {note}") ++
    (d.suggestions.map fun suggestion => s!"  = help: {suggestion}")

/-- The short form. -/
def text (d : Diagnostic) : String := "\n".intercalate d.textLines

end Diagnostic

end Kaomoji
