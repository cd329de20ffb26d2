import Kaomoji.Leaf

/-!
# Line trees

A source text is read as a list of lines and each line as a list of leaves; nothing is nested
deeper.  In a tree that was read from a text each line has a first leaf and that leaf is a name,
but trees can also be built by hand, so the type does not ask for it.
-/

namespace Kaomoji

/-- The leaves of one line. -/
structure Line where
  leaves : List Leaf
deriving DecidableEq, Inhabited

/-- The leaves separated by single blanks. -/
def Line.text (line : Line) : String := " ".intercalate (line.leaves.map Leaf.text)

/-- The lines of a unit that have leaves, in order. -/
abbrev Tree := List Line

end Kaomoji
