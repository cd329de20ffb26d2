/-!
# Lines

What is written line by line has a newline behind each line, the last included (`unlines`).

What is read is cut into lines where a snippet of it is shown (`Text.lines`).  A line ends at a
newline; a carriage return directly before that newline belongs to the line end and is not shown.  A
newline at the very end of the text closes the last line and opens no empty one, and a carriage
return that no newline follows is text like any other.
-/

namespace Kaomoji

/-! ## Lines as they are written -/

/-- The text of lines that are each closed by a newline. -/
def unlines (lines : List String) : String := String.join (lines.map (· ++ "\n"))

@[simp] theorem unlines_nil : unlines [] = "" := rfl

@[simp] theorem unlines_cons (line : String) (lines : List String) :
    unlines (line :: lines) = line ++ "\n" ++ unlines lines := by
  simp [unlines]

@[simp] theorem unlines_append (first second : List String) :
    unlines (first ++ second) = unlines first ++ unlines second := by
  simp [unlines]

namespace Text

/-! ## Lines as a reader sees them -/

/-- The lines of a text, without their line ends. -/
def lines : List Char → List (List Char)
  | [] => []
  | '\r' :: '\n' :: rest => [] :: lines rest
  | '\n' :: rest => [] :: lines rest
  | c :: rest =>
    match lines rest with
    | [] => [[c]]
    | line :: later => (c :: line) :: later

@[simp] theorem lines_nil : lines [] = [] := rfl

@[simp] theorem lines_newline (rest : List Char) : lines ('\n' :: rest) = [] :: lines rest := by
  rw [lines]

@[simp] theorem lines_return_newline (rest : List Char) :
    lines ('\r' :: '\n' :: rest) = [] :: lines rest := by
  rw [lines]

end Text

end Kaomoji
