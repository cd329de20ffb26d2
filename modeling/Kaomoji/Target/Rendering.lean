import Kaomoji.Target
import Kaomoji.Target.EmitError
import Kaomoji.Target.Word

/-!
# Statements in the target language

Each statement becomes one line of the target.  For the two targets side by side:

| statement   | Python          | C                       |
|-------------|-----------------|-------------------------|
| call        | `print(x, 2)`   | `printf("%d %d\n", x, 2);` |
| declaration | `x = 0`         | `int x = 0;`            |
| sum         | `x += 2`        | `x += 2;`               |

The format string of a C call has a placeholder for each argument, so C has to know each
argument's type: that of a variable from its declaration, which therefore has to come first, and
that of a number from its value.  The scope that carries the declared types from line to line is
keyed by the names of the source, not by the words that are written.
-/

namespace Kaomoji

/-- The declared variables with their types, the latest declaration first. -/
abbrev Scope := List (String × CType)

/-- The operands of a sum: the variable that is changed and the value that is added. -/
def sumOperands (args : List Leaf) (position : Position) : Except EmitError (Identifier × Leaf) :=
  match args with
  | [.identifier target, value] => .ok (target, value)
  | [.number n, _] => .error (.statementTarget .sum (Leaf.number n).describe n.position)
  | _ => .error (.statementArity .sum Form.sum.arity args.length position)

namespace Target

/-! ## Python -/

/-- The built-ins of the Python target. -/
def pythonCalls : List (String × String) := [("UwU", "print")]

/-- The initial value of a declared variable. -/
def initialValue : DeclaredType → String
  | .int => "0"

/-- The line of a statement. -/
def pythonLine : Statement → Except EmitError String
  | .call callee args =>
    match pythonCalls.lookup callee.name with
    | some function => .ok s!"{function}({argumentList args})"
    | none => .error (.unknownCall callee.name callee.position)
  | .declaration type target => .ok s!"{target.word} = {initialValue type}"
  | .extended .sum args position => do
    let (target, value) ← sumOperands args position
    return s!"{target.word} += {value.word}"

/-! ## C -/

/-- The built-ins of the C target. -/
def cCalls : List (String × String) := [("UwU", "printf")]

/-- The C type of a declared variable. -/
def cType : DeclaredType → CType
  | .int => .int

/-- The C type of an argument: as declared for a variable, by its value for a number. -/
def typeOf (scope : Scope) : Leaf → Except EmitError CType
  | .identifier id =>
    match scope.lookup id.name with
    | some type => .ok type
    | none => .error (.unknownVariable id.name id.position)
  | .number n => .ok (if n.isIntegral then .int else .float)

/-- The placeholder of an argument. -/
def placeholder (scope : Scope) (arg : Leaf) : Except EmitError String := do
  let type ← typeOf scope arg
  match type.placeholder? with
  | some text => .ok text
  | none => .error (.noFormat type arg.position)

/-- The format string for some placeholders, with its quotes; it ends in an escaped newline. -/
def formatString (placeholders : List String) : String :=
  "\"" ++ " ".intercalate placeholders ++ "\\n\""

/-- The line of a statement and the scope behind it. -/
def cLine (scope : Scope) : Statement → Except EmitError (String × Scope)
  | .call callee args => do
    match cCalls.lookup callee.name with
    | some function =>
      let placeholders ← args.mapM (placeholder scope)
      let arguments := ", ".intercalate (formatString placeholders :: args.map Leaf.word)
      return (s!"{function}({arguments});", scope)
    | none => .error (.unknownCall callee.name callee.position)
  | .declaration type target =>
    let ctype := cType type
    .ok (s!"{ctype.text} {target.word} = {initialValue type};", (target.name, ctype) :: scope)
  | .extended .sum args position => do
    let (target, value) ← sumOperands args position
    return (s!"{target.word} += {value.word};", scope)

/-! ## Both -/

/-- The line of a statement and the scope behind it; Python keeps no scope. -/
def line (target : Target) (scope : Scope) (s : Statement) : Except EmitError (String × Scope) :=
  match target with
  | c => cLine scope s
  | python => (·, scope) <$> pythonLine s

end Target

end Kaomoji
