import Kaomoji.Binary64.Shortest

/-!
# Numbers as text

Numbers are shown in two ways, with the same digits.  Programs and messages get the plain numeral,
which is always positional.  A listing of tokens gets the telling numeral, which shows by its shape
that a number is a floating-point number: whole numbers keep `.0`, and numbers whose first digit
lies at `10¹⁶` or above, or below `10⁻⁴`, are in scientific layout.
-/

namespace Kaomoji.Binary64

/-- The telling numeral is positional while the power of ten at the first digit is in here. -/
def positionalExponent (e : Int) : Bool := -4 ≤ e && e < 16

/-- The telling layout of a fraction. -/
def tellingLayout (d : Decimal) : List Char :=
  if positionalExponent d.exponent then d.positionalWithFraction else d.scientific

/-- A number in a given layout of fractions.  Infinities and what is no number have names, and a
sign is written whenever the sign bit is set, for zero too. -/
def numeral (layout : Decimal → List Char) (x : Binary64) : String :=
  if x.isNaN then "NaN"
  else
    String.ofList <|
      (if x.isNegative then ['-'] else []) ++
        (if x.isFinite then layout x.shortest else ['i', 'n', 'f'])

/-- The plain numeral, such as `2`, `0.0000001` or `-0`. -/
def text (x : Binary64) : String := x.numeral Decimal.positional

/-- The telling numeral, such as `2.0`, `1e-7` or `-0.0`. -/
def tellingText (x : Binary64) : String := x.numeral tellingLayout

end Kaomoji.Binary64
