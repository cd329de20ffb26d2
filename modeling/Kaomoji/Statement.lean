import Kaomoji.Leaf

/-!
# Statements

A line means one of three things: a call of a built-in, the declaration of a variable, or an
extended statement.  The set is closed, so whatever treats statements treats each kind.
-/

namespace Kaomoji

/-- The types that a variable can be declared with. -/
inductive DeclaredType where
  | int
deriving DecidableEq

/-- The type as listings name it. -/
def DeclaredType.text : DeclaredType → String
  | .int => "INT"

/-- The forms of extended statements. -/
inductive Form where
  /-- Adds a value to a variable. -/
  | sum
deriving DecidableEq

namespace Form

/-- The form as listings and messages name it. -/
def text : Form → String
  | sum => "SUM"

/-- The number of arguments that a form takes. -/
def arity : Form → Nat
  | sum => 2

end Form

/-- What a line means. -/
inductive Statement where
  /-- The call of a built-in on some arguments. -/
  | call (callee : Identifier) (args : List Leaf)
  /-- The declaration of a variable. -/
  | declaration (type : DeclaredType) (target : Identifier)
  /-- An extended statement with its arguments, not yet checked, and the place of its keyword. -/
  | extended (form : Form) (args : List Leaf) (position : Position)
deriving DecidableEq

namespace Statement

/-- The place by which a statement is known: its callee, its variable or its keyword. -/
def position : Statement → Position
  | call callee _ => callee.position
  | declaration _ target => target.position
  | extended _ _ position => position

/-- The statement in one line, such as `Decl INT @_@`, `Stx SUM @_@ 2` or `Call UwU @_@`. -/
def text : Statement → String
  | call callee args => " ".intercalate ("Call" :: callee.name :: args.map Leaf.text)
  | declaration type target => s!"Decl {type.text} {target.name}"
  | extended form args _ => " ".intercalate ("Stx" :: form.text :: args.map Leaf.text)

end Statement

/-- The statements of a unit, in order. -/
abbrev Program := List Statement

end Kaomoji
