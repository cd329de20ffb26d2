/-!
# Output that may refuse

A unit is written piece by piece to a sink.  A sink may have a limit on the bytes it holds; a piece
that would take it past the limit is refused as a whole, and a later, shorter piece may be taken
again.

On top of a sink, a writer writes lines.  A line goes out as one piece for each unit of
indentation, one for its text and one for its end, and it counts only once all of them have been
taken.  So what a refusal leaves behind always ends where a piece does.
-/

namespace Kaomoji

/-- Output with an optional limit on its bytes. -/
structure Sink where
  limit : Option Nat
  /-- What has been taken so far. -/
  text : String
deriving DecidableEq, Inhabited

namespace Sink

/-- A sink that holds nothing yet. -/
def empty (limit : Option Nat) : Sink := ⟨limit, ""⟩

/-- Whether a piece still fits. -/
def accepts (sink : Sink) (piece : String) : Bool :=
  sink.limit.all fun limit => sink.text.utf8ByteSize + piece.utf8ByteSize ≤ limit

/-- Writes pieces up to the first that does not fit; tells whether all did. -/
def write (sink : Sink) : List String → Bool × Sink
  | [] => (true, sink)
  | piece :: rest =>
    if sink.accepts piece then write { sink with text := sink.text ++ piece } rest
    else (false, sink)

end Sink

/-- A sink with the state of the text that is written to it. -/
structure Writer where
  sink : Sink
  /-- The number of indentation units before each line. -/
  indent : Nat
  /-- The number of lines that have been written completely. -/
  lines : Nat
deriving DecidableEq, Inhabited

namespace Writer

/-- A writer at the start of a text. -/
def onto (sink : Sink) : Writer := ⟨sink, 0, 0⟩

/-- One unit of indentation. -/
def indentUnit : String := "    "

/-- The pieces in which a line goes out.  A line without text is not indented. -/
def linePieces (indent : Nat) (line : String) : List String :=
  (if line = "" then [] else List.replicate indent indentUnit) ++ [line, "\n"]

/-- Writes a line; tells whether all of it was taken. -/
def writeLine (w : Writer) (line : String) : Bool × Writer :=
  match w.sink.write (linePieces w.indent line) with
  | (true, sink) => (true, { w with sink, lines := w.lines + 1 })
  | (false, sink) => (false, { w with sink })

/-- The writer with its lines one unit further in. -/
def deeper (w : Writer) : Writer := { w with indent := w.indent + 1 }

/-- The writer with its lines one unit further out. -/
def shallower (w : Writer) : Writer := { w with indent := w.indent - 1 }

end Writer

end Kaomoji
