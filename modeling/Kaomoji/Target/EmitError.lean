import Kaomoji.Diagnostic
import Kaomoji.Statement

/-!
# Statements that a target cannot express

Errors of writing a unit in a target language.  The C target has to know the type of everything it
prints, hence the type it assigns to values is part of these errors.
-/

namespace Kaomoji

/-- The types that the C target gives to values. -/
inductive CType where
  | int
  | float
deriving DecidableEq

namespace CType

/-- The type as C and messages name it. -/
def text : CType → String
  | int => "int"
  | float => "float"

/-- How a value of the type is announced in a format string, if it can be printed at all. -/
def placeholder? : CType → Option String
  | int => some "%d"
  | float => none

end CType

/-- Why a unit could not be written. -/
inductive EmitError where
  /-- The callee is no built-in of the target. -/
  | unknownCall (name : String) (position : Position)
  /-- An argument has a type that cannot be printed. -/
  | noFormat (type : CType) (position : Position)
  /-- An argument is a variable that was not declared. -/
  | unknownVariable (name : String) (position : Position)
  /-- An extended statement has the wrong number of arguments. -/
  | statementArity (form : Form) (expected found : Nat) (position : Position)
  /-- An extended statement changes something that is no variable. -/
  | statementTarget (form : Form) (found : String) (position : Position)
  /-- The output did not take what was written to it. -/
  | refusedWrite
deriving DecidableEq

namespace EmitError

/-- The code of the error. -/
def code : EmitError → ErrorCode
  | unknownCall _ _ => .unknownCall
  | noFormat _ _ => .noFormat
  | unknownVariable _ _ => .unknownVariable
  | statementArity _ _ _ _ => .statementArity
  | statementTarget _ _ _ => .statementTarget
  | refusedWrite => .refusedWrite

/-- The place of what is at fault; a refused write has none. -/
def position? : EmitError → Option Position
  | unknownCall _ position | noFormat _ position | unknownVariable _ position
  | statementArity _ _ _ position | statementTarget _ _ position => some position
  | refusedWrite => none

/-- The fault, without its place. -/
def fault : EmitError → String
  | unknownCall name _ => s!"callable name not found: `{name}`"
  | noFormat type _ => s!"format option for type `{type.text}` not found"
  | unknownVariable name _ => s!"unknown variable type for `{name}`"
  | statementArity form expected found _ =>
    s!"expected {expected} arguments in {form.text} statement, found {found}"
  | statementTarget form found _ =>
    s!"expected identifier as first argument of {form.text} statement, found {found}"
  | refusedWrite => "failed to write output"

/-- The error in one line, its place first. -/
def message (e : EmitError) : String :=
  match e.position? with
  | some position => s!"at {position.text}: {e.fault}"
  | none => e.fault

/-- What is said at the place of the error; a name that is at fault is underlined whole. -/
def labels : EmitError → List Label
  | unknownCall name position => [⟨position, name.length, "not a built-in of this backend"⟩]
  | noFormat _ position => [⟨position, 1, "cannot be printed"⟩]
  | unknownVariable name position => [⟨position, name.length, "used before its declaration"⟩]
  | statementArity _ _ _ position => [⟨position, 1, "in this statement"⟩]
  | statementTarget _ _ position => [⟨position, 1, "not a name"⟩]
  | refusedWrite => []

/-- Rules of the language that the error breaks. -/
def notes : EmitError → List String
  | noFormat _ _ => ["only `int` values can be printed by the C backend"]
  | statementArity _ _ _ _ => ["an accumulate statement takes a target identifier and a value"]
  | _ => []

/-- How to mend the error. -/
def suggestions : EmitError → List String
  | unknownVariable name _ => [s!"declare it first: `O.O {name}`"]
  | _ => []

/-- The error with all that explains it. -/
def diagnostic (e : EmitError) : Diagnostic :=
  { code := e.code
    message := e.fault
    labels := e.labels
    notes := e.notes
    suggestions := e.suggestions }

end EmitError

end Kaomoji
