import Kaomoji.Diagnostic
import Kaomoji.Origin
import Kaomoji.Text.Quoted

/-!
# Lexical errors

Two things can be wrong with the characters of a source text: a character that begins no lexeme,
and a decimal point that is not followed by a digit or a separator.
-/

namespace Kaomoji

/-- What is wrong with a character. -/
inductive LexicalFault where
  /-- It begins no lexeme. -/
  | unknownCharacter (found : Char)
  /-- It stands behind a decimal point and is neither digit nor separator; nothing is found where
  the text ends with the point. -/
  | missingDecimalDigit (found : Option Char)
deriving DecidableEq

/-- A fault of the characters, the place of the faulty character (or the end of the text) and the
unit. -/
structure LexicalError where
  fault : LexicalFault
  position : Position
  origin : Origin
deriving DecidableEq

namespace LexicalFault

/-- The fault in one line. -/
def message : LexicalFault → String
  | unknownCharacter found => s!"unknown token {Text.quotedChar found}"
  | missingDecimalDigit (some found) =>
    s!"expected digit or underscore after decimal point, found {Text.quotedChar found}"
  | missingDecimalDigit none =>
    "expected digit or underscore after decimal point, found end of input"

/-- The code of the fault. -/
def code : LexicalFault → ErrorCode
  | unknownCharacter _ => .unknownCharacter
  | missingDecimalDigit _ => .missingDecimalDigit

end LexicalFault

namespace LexicalError

/-- The code of the error. -/
def code (e : LexicalError) : ErrorCode := e.fault.code

/-- The error in one line, with unit and place. -/
def message (e : LexicalError) : String :=
  s!"in {e.origin.displayName} at char {e.position.index} [{e.position.text}] {e.fault.message}"

/-- The error with all that explains it; at the end of the text there is nothing to underline. -/
def diagnostic (e : LexicalError) : Diagnostic :=
  match e.fault with
  | .unknownCharacter _ =>
    { code := e.code
      message := e.fault.message
      labels := [⟨e.position, 1, "unexpected character"⟩]
      notes := ["names may contain letters, digits and `_ ! . @ / \\ ~ :`"] }
  | .missingDecimalDigit found =>
    { code := e.code
      message := e.fault.message
      labels := [⟨e.position, if found.isSome then 1 else 0, "expected a digit here"⟩]
      suggestions := ["write the fraction explicitly, e.g. `1.0`"] }

end LexicalError

end Kaomoji
