import Kaomoji.Binary64.Numeral
import Kaomoji.Position

/-!
# Leaves

The words of a line are leaves: names and number literals, each with its place.  Leaves pass
unchanged from the line they are read from into the statement that the line means.
-/

namespace Kaomoji

/-- A name, used as a keyword, a callee or a variable. -/
structure Identifier where
  name : String
  position : Position
deriving DecidableEq, Inhabited

/-- A number, as a literal denotes it. -/
structure NumberLiteral where
  value : Binary64
  position : Position
deriving DecidableEq, Inhabited

namespace NumberLiteral

/-- Whether the value is finite and has no fractional part. -/
def isIntegral (n : NumberLiteral) : Bool := n.value.isIntegral

/-- The plain numeral of the value. -/
def text (n : NumberLiteral) : String := n.value.text

end NumberLiteral

/-- A word of a line. -/
inductive Leaf where
  | identifier (id : Identifier)
  | number (n : NumberLiteral)
deriving DecidableEq, Inhabited

namespace Leaf

/-- Where the leaf begins. -/
def position : Leaf → Position
  | identifier id => id.position
  | number n => n.position

/-- The leaf as a name, if it is one. -/
def identifier? : Leaf → Option Identifier
  | identifier id => some id
  | number _ => none

/-- The leaf as it would be written. -/
def text : Leaf → String
  | identifier id => id.name
  | number n => n.text

/-- The leaf as messages name it. -/
def describe : Leaf → String
  | identifier id => s!"identifier `{id.name}`"
  | number n => s!"number `{n.text}`"

end Leaf

end Kaomoji
