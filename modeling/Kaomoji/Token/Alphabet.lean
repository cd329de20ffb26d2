import Kaomoji.Text.Alphabetic
import Kaomoji.Text.Numeric

/-!
# The characters that lexemes are made of

Names are made of letters and numbers of any script and of eight punctuation marks, so that
`O.O`, `@_@` and `:v` are names.  A number, in contrast to a name, begins with one of the ten
ASCII digits; further digits may be grouped by underscores.
-/

namespace Kaomoji

/-- The marks that may stand anywhere in a name. -/
def nameMarks : List Char := ['_', '!', '.', '@', '/', '\\', '~', ':']

/-- What can begin a name. -/
def isNameStart (c : Char) : Bool := Text.isAlphabetic c || nameMarks.contains c

/-- What can continue a name. -/
def isNameContinue (c : Char) : Bool := isNameStart c || Text.isNumeric c

/-- What groups digits; it adds nothing to the value of a number. -/
def digitSeparator : Char := '_'

/-- What can continue a row of digits. -/
def isDigitOrSeparator (c : Char) : Bool := c.isDigit || c = digitSeparator

/-- A row of digits without its separators. -/
def withoutSeparators (row : List Char) : List Char := row.filter (· ≠ digitSeparator)

/-- What may stand between two lexemes of a line. -/
def isBlank (c : Char) : Bool := c = ' ' || c = '\t'

end Kaomoji
