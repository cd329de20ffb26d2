import Kaomoji.Token
import Kaomoji.Token.LexicalError

/-!
# Errors of reading lines

The tokens of a line may be wrong in three ways.  Since tokens are made while lines are read, a
lexical error can also surface here; it is passed on unchanged.
-/

namespace Kaomoji

/-- What is wrong with a token. -/
inductive SyntaxFault where
  /-- It begins a line but is not of the kind that must begin one. -/
  | unexpectedToken (expected found : TokenTag)
  /-- It ends the leaves of a line but is no line end. -/
  | missingNewLine (found : TokenTag)
  /-- It stands for no leaf. -/
  | notALeaf (found : TokenTag)
deriving DecidableEq

/-- A fault of a token, with the token's place, span and unit. -/
structure SyntaxError where
  fault : SyntaxFault
  position : Position
  span : Nat
  origin : Origin
deriving DecidableEq

namespace SyntaxFault

/-- The fault in one line. -/
def message : SyntaxFault → String
  | unexpectedToken expected found => s!"expected {expected.describe}, found {found.describe}"
  | missingNewLine found =>
    s!"expected newline after sequence of expressions, found {found.describe}"
  | notALeaf found => s!"unknown token evaluated in name expression: {found.describe}"

/-- The code of the fault. -/
def code : SyntaxFault → ErrorCode
  | unexpectedToken _ _ => .unexpectedToken
  | missingNewLine _ => .missingNewLine
  | notALeaf _ => .notALeaf

/-- What is said at the token itself. -/
def remark : SyntaxFault → String
  | unexpectedToken _ _ => "not an identifier; a line must start with a keyword"
  | missingNewLine _ => "expected a line break here"
  | notALeaf _ => "not a name or number"

/-- Rules of the language that the fault breaks. -/
def notes : SyntaxFault → List String
  | unexpectedToken _ _ => ["each line is a keyword followed by its arguments"]
  | missingNewLine _ | notALeaf _ => []

end SyntaxFault

namespace SyntaxError

/-- A fault found at a token. -/
def ofToken (fault : TokenTag → SyntaxFault) (token : Token) : SyntaxError :=
  { fault := fault token.tag
    position := token.position
    span := token.span
    origin := token.origin }

/-- The code of the error. -/
def code (e : SyntaxError) : ErrorCode := e.fault.code

/-- The error in one line, with unit and place. -/
def message (e : SyntaxError) : String :=
  s!"in {e.origin.displayName} at {e.position.text}: {e.fault.message}"

/-- The error with all that explains it; the token is underlined whole. -/
def diagnostic (e : SyntaxError) : Diagnostic :=
  { code := e.code
    message := e.fault.message
    labels := [⟨e.position, e.span, e.fault.remark⟩]
    notes := e.fault.notes }

end SyntaxError

/-- What can keep the lines of a unit from being read. -/
inductive ParseError where
  | lexical (e : LexicalError)
  | structural (e : SyntaxError)
deriving DecidableEq

namespace ParseError

/-- The code of the error. -/
def code : ParseError → ErrorCode
  | lexical e => e.code
  | structural e => e.code

/-- Where the error was found. -/
def position : ParseError → Position
  | lexical e => e.position
  | structural e => e.position

/-- The error in one line. -/
def message : ParseError → String
  | lexical e => e.message
  | structural e => e.message

/-- The error with all that explains it. -/
def diagnostic : ParseError → Diagnostic
  | lexical e => e.diagnostic
  | structural e => e.diagnostic

end ParseError

end Kaomoji
