import Kaomoji.Binary64.Numeral
import Kaomoji.Origin
import Kaomoji.Position
import Kaomoji.Text.Quoted

/-!
# Tokens

A token is a lexeme with its place: what kind of lexeme it is and what it carries, where it begins,
how many characters it spans, and which unit it belongs to.
-/

namespace Kaomoji

/-- The kinds of lexemes, without what they carry. -/
inductive TokenTag where
  | newLine
  | name
  | number
  | typeName
  | endOfFile
deriving DecidableEq

/-- The tag as messages name it. -/
def TokenTag.describe : TokenTag → String
  | .newLine => "newline"
  | .name => "name"
  | .number => "number"
  | .typeName => "type"
  | .endOfFile => "end of file"

/-- The kind of a lexeme together with what it carries. -/
inductive TokenKind where
  /-- A line end; the line ends of a run of blank lines make one token. -/
  | newLine
  /-- A name, as it is written. -/
  | name (text : String)
  /-- A number literal, by its value. -/
  | number (value : Binary64)
  /-- The name of a type.  No lexeme is one yet. -/
  | typeName (text : String)
  /-- The end of the text. -/
  | endOfFile
deriving DecidableEq, Inhabited

namespace TokenKind

/-- The kind without what it carries. -/
def tag : TokenKind → TokenTag
  | newLine => .newLine
  | name _ => .name
  | number _ => .number
  | typeName _ => .typeName
  | endOfFile => .endOfFile

/-- The kind as listings show it. -/
def text : TokenKind → String
  | newLine => "NewLine"
  | name text => s!"Name({Text.quoted text})"
  | number value => s!"Number({value.tellingText})"
  | typeName text => s!"Type({Text.quoted text})"
  | endOfFile => "EndOfFile"

end TokenKind

/-- A lexeme with its place. -/
structure Token where
  kind : TokenKind
  /-- Where the lexeme begins. -/
  position : Position
  /-- How many characters the lexeme has. -/
  span : Nat
  /-- The unit that the lexeme stands in. -/
  origin : Origin
deriving DecidableEq, Inhabited

namespace Token

/-- The kind of the lexeme without what it carries. -/
def tag (t : Token) : TokenTag := t.kind.tag

/-- The token as listings show it, such as `Name("O.O") @ 1:1 (char 0, span 3)`. -/
def text (t : Token) : String :=
  s!"{t.kind.text} @ {t.position.text} (char {t.position.index}, span {t.span})"

end Token

end Kaomoji
