/-!
# Ranges of code points

A character property of the Unicode standard is a set of code points, and such a set is
listed most briefly as the closed ranges it consists of.  `Ranges` is that list and
`Ranges.contains` is membership.  The property modules beside this one each hold one list and
one predicate; they all treat the ASCII characters by a rule of their own and leave the list to
speak for the rest, so that what a predicate says about ASCII can be read off its definition.
-/

namespace Kaomoji.Text

/-- Closed ranges of code points, in increasing order and apart from each other. -/
abbrev Ranges := List (Nat × Nat)

/-- Whether a code point lies in one of the ranges. -/
def Ranges.contains (ranges : Ranges) (codePoint : Nat) : Bool :=
  ranges.any fun range => range.1 ≤ codePoint && codePoint ≤ range.2

/-- Whether a character is one of the first 128 code points. -/
def isAscii (c : Char) : Bool := c.toNat < 128

end Kaomoji.Text
