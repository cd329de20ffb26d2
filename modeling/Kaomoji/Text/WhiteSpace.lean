import Kaomoji.Text.Ranges

/-!
# White space

Characters that the Unicode standard classes as white space, and texts without those at their ends.
-/

namespace Kaomoji.Text

/-- The code points beyond ASCII that are white space. -/
def whiteSpaceRanges : Ranges :=
  [(0x85, 0x85), (0xa0, 0xa0), (0x1680, 0x1680), (0x2000, 0x200a), (0x2028, 0x2029),
   (0x202f, 0x202f), (0x205f, 0x205f), (0x3000, 0x3000)]

/-- White space of any script; among the ASCII characters these are the blank and the five from the
tab to the carriage return. -/
def isWhiteSpace (c : Char) : Bool :=
  if isAscii c then c == ' ' || (0x9 ≤ c.toNat && c.toNat ≤ 0xd)
  else whiteSpaceRanges.contains c.toNat

/-- The text up to its last character that is no white space. -/
def trimEnd (text : List Char) : List Char := (text.reverse.dropWhile isWhiteSpace).reverse

end Kaomoji.Text
