import Kaomoji.Statement.MeaningError
import Kaomoji.Target.EmitError
import Kaomoji.Tree.ParseError

/-!
# Errors of a compilation

A compilation ends with the first error of any of its phases.
-/

namespace Kaomoji

/-- The error that ended a compilation. -/
inductive CompileError where
  | lexical (e : LexicalError)
  | structural (e : SyntaxError)
  | meaning (e : MeaningError)
  | emission (e : EmitError)
deriving DecidableEq

namespace CompileError

/-- An error of reading lines; a lexical error stays one. -/
def ofParseError : ParseError → CompileError
  | .lexical e => lexical e
  | .structural e => structural e

/-- The code of the error. -/
def code : CompileError → ErrorCode
  | lexical e => e.code
  | structural e => e.code
  | meaning e => e.code
  | emission e => e.code

/-- The phase that refused; its codes are its own. -/
def phase (e : CompileError) : Phase := e.code.phase

/-- Where the error was found; errors that concern no place of the text have none. -/
def position? : CompileError → Option Position
  | lexical e => some e.position
  | structural e => some e.position
  | meaning e => e.position?
  | emission e => e.position?

/-- The error in one line. -/
def message : CompileError → String
  | lexical e => e.message
  | structural e => e.message
  | meaning e => e.message
  | emission e => e.message

/-- The error with all that explains it. -/
def diagnostic : CompileError → Diagnostic
  | lexical e => e.diagnostic
  | structural e => e.diagnostic
  | meaning e => e.diagnostic
  | emission e => e.diagnostic

end CompileError

end Kaomoji
