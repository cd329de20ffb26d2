import Kaomoji.Diagnostic
import Kaomoji.Statement.Keyword

/-!
# Lines without meaning

A line may fail to mean anything because of its head or because of its arguments.  The first two
causes do not arise from lines that were read from a text; they concern trees built by hand.
-/

namespace Kaomoji

/-- Why a line means nothing. -/
inductive MeaningError where
  /-- It has no leaves. -/
  | emptyLine
  /-- It begins with something other than a name. -/
  | notAnIdentifier (found : String) (position : Position)
  /-- It begins with a name that is no keyword. -/
  | unknownKeyword (name : String) (position : Position)
  /-- It is a declaration with none or several arguments. -/
  | declarationArity (found : Nat) (position : Position)
  /-- It is a declaration whose one argument is no name. -/
  | declarationTarget (found : String) (position : Position)
deriving DecidableEq

namespace MeaningError

/-- The code of the error. -/
def code : MeaningError → ErrorCode
  | emptyLine => .emptyLine
  | notAnIdentifier _ _ => .notAnIdentifier
  | unknownKeyword _ _ => .unknownKeyword
  | declarationArity _ _ => .declarationArity
  | declarationTarget _ _ => .declarationTarget

/-- The place of the leaf at fault; an empty line has none. -/
def position? : MeaningError → Option Position
  | emptyLine => none
  | notAnIdentifier _ position | unknownKeyword _ position | declarationArity _ position
  | declarationTarget _ position => some position

/-- The fault, without its place. -/
def fault : MeaningError → String
  | emptyLine => "empty expression list"
  | notAnIdentifier found _ => s!"start of expression is not an identifier: {found}"
  | unknownKeyword name _ => s!"`{name}` cannot become a recognized construct"
  | declarationArity found _ =>
    s!"declaration expects exactly one identifier, found {found} arguments"
  | declarationTarget found _ => s!"declaration target must be an identifier, found {found}"

/-- The error in one line, its place first. -/
def message (e : MeaningError) : String :=
  match e.position? with
  | some position => s!"at {position.text}: {e.fault}"
  | none => e.fault

/-- The keywords as the note on an unknown one lists them. -/
def keywordList : String := ", ".intercalate (Keyword.names.map fun name => s!"`{name}`")

/-- The error with all that explains it; an unknown keyword is underlined whole. -/
def diagnostic (e : MeaningError) : Diagnostic :=
  match e with
  | emptyLine => { code := e.code, message := e.fault }
  | notAnIdentifier _ position =>
    { code := e.code
      message := e.fault
      labels := [⟨position, 1, "expected a keyword"⟩]
      notes := ["each line must start with a keyword"] }
  | unknownKeyword name position =>
    { code := e.code
      message := s!"unknown keyword `{name}`"
      labels := [⟨position, name.length, "not a call, declaration or extended statement"⟩]
      notes := [s!"expected one of {keywordList}"] }
  | declarationArity _ position =>
    { code := e.code
      message := e.fault
      labels := [⟨position, 1, "declared here"⟩] }
  | declarationTarget _ position =>
    { code := e.code
      message := e.fault
      labels := [⟨position, 1, "not a name"⟩] }

end MeaningError

end Kaomoji
