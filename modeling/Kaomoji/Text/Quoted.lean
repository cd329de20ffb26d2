import Kaomoji.Text.Combining
import Kaomoji.Text.Printable

/-!
# Quoted text

Messages that cite source text put it between quotation marks and spell out what a reader could
not see or would misread: control characters by their usual two-character forms, other characters
without a visible form of their own, and characters that would attach themselves to their
neighbour, by code point.  A name is cited between double quotes and a single character between
single quotes; of the two marks only the enclosing one is escaped.
-/

namespace Kaomoji.Text

/-- The mark around a cited string. -/
def doubleQuote : Char := '\x22'

/-- The mark around a cited character. -/
def singleQuote : Char := '\x27'

/-- A character named by its code point: `\u` and the hexadecimal numeral in braces. -/
def spellOut (c : Char) : List Char :=
  ['\\', 'u', '\x7b'] ++ Nat.toDigits 16 c.toNat ++ ['\x7d']

/-- The form of one character between two quotation marks `mark`. -/
def escape (mark c : Char) : List Char :=
  if c = '\x00' then ['\\', '0']
  else if c = '\t' then ['\\', 't']
  else if c = '\r' then ['\\', 'r']
  else if c = '\n' then ['\\', 'n']
  else if c = '\\' || c = mark then ['\\', c]
  else if isCombining c || !isPrintable c then spellOut c
  else [c]

/-- A text between quotation marks, each of its characters in its escaped form. -/
def enclose (mark : Char) (text : List Char) : String :=
  String.ofList (mark :: text.flatMap (escape mark) ++ [mark])

/-- A string as messages cite it, such as `"O.O"`. -/
def quoted (text : String) : String := enclose doubleQuote text.toList

/-- A single character as messages cite it, such as `'$'`. -/
def quotedChar (c : Char) : String := enclose singleQuote [c]

end Kaomoji.Text
