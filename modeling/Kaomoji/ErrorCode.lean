/-!
# Error codes

Every way in which a unit can be refused has a code.  The first digit of its text tells the phase
that refuses, and the code is all that a script needs to look at; messages are for people.
-/

namespace Kaomoji

/-- The phases of a compilation, each of which can end it. -/
inductive Phase where
  /-- From characters to tokens. -/
  | lexing
  /-- From tokens to lines of leaves. -/
  | parsing
  /-- From lines to statements. -/
  | analysis
  /-- From statements to target text. -/
  | generation
deriving DecidableEq

/-- The phase as it is named to people. -/
def Phase.text : Phase → String
  | .lexing => "lexing"
  | .parsing => "parsing"
  | .analysis => "semantic analysis"
  | .generation => "code generation"

/-- What a unit can be refused for. -/
inductive ErrorCode where
  | unknownCharacter
  | missingDecimalDigit
  | unexpectedToken
  | missingNewLine
  | notALeaf
  | notAnIdentifier
  | unknownKeyword
  | declarationArity
  | declarationTarget
  | emptyLine
  | unknownCall
  | noFormat
  | unknownVariable
  | statementArity
  | statementTarget
  | refusedWrite
deriving DecidableEq

namespace ErrorCode

/-- Every code, in the order of their texts. -/
def all : List ErrorCode :=
  [unknownCharacter, missingDecimalDigit, unexpectedToken, missingNewLine, notALeaf,
   notAnIdentifier, unknownKeyword, declarationArity, declarationTarget, emptyLine, unknownCall,
   noFormat, unknownVariable, statementArity, statementTarget, refusedWrite]

/-- The code as it is printed. -/
def text : ErrorCode → String
  | unknownCharacter => "E0001"
  | missingDecimalDigit => "E0002"
  | unexpectedToken => "E1001"
  | missingNewLine => "E1002"
  | notALeaf => "E1003"
  | notAnIdentifier => "E2001"
  | unknownKeyword => "E2002"
  | declarationArity => "E2003"
  | declarationTarget => "E2004"
  | emptyLine => "E2005"
  | unknownCall => "E5001"
  | noFormat => "E5002"
  | unknownVariable => "E5003"
  | statementArity => "E5004"
  | statementTarget => "E5005"
  | refusedWrite => "E5006"

/-- What a code means, in one line. -/
def description : ErrorCode → String
  | unknownCharacter => "unrecognized character"
  | missingDecimalDigit => "expected digit after decimal point"
  | unexpectedToken => "unexpected token"
  | missingNewLine => "expected newline after sequence of expressions"
  | notALeaf => "token cannot be evaluated as an expression"
  | notAnIdentifier => "start of expression is not an identifier"
  | unknownKeyword => "line cannot become a recognized construct"
  | declarationArity => "declaration expects exactly one identifier"
  | declarationTarget => "declaration target is not an identifier"
  | emptyLine => "empty expression list"
  | unknownCall => "callable name not found"
  | noFormat => "format option not found"
  | unknownVariable => "unknown type"
  | statementArity => "wrong number of arguments for extended statement"
  | statementTarget => "extended statement target is not an identifier"
  | refusedWrite => "failed to write output"

/-- The phase that refuses with a code. -/
def phase : ErrorCode → Phase
  | unknownCharacter | missingDecimalDigit => .lexing
  | unexpectedToken | missingNewLine | notALeaf => .parsing
  | notAnIdentifier | unknownKeyword | declarationArity | declarationTarget | emptyLine => .analysis
  | unknownCall | noFormat | unknownVariable | statementArity | statementTarget
  | refusedWrite => .generation

/-- The code with a given text. -/
def ofText? (text : String) : Option ErrorCode := all.find? fun code => code.text == text

end ErrorCode

end Kaomoji
