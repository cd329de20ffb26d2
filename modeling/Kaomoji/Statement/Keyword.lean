import Kaomoji.Statement

/-!
# Keywords

The first name of a line decides what the line means.  The table is closed, and each keyword has
one meaning.
-/

namespace Kaomoji

/-- What a keyword announces. -/
inductive Keyword where
  | call
  | declaration (type : DeclaredType)
  | extended (form : Form)
deriving DecidableEq

namespace Keyword

/-- Every keyword with what it announces: calls, then declarations, then extended statements. -/
def table : List (String × Keyword) :=
  [("UwU", call), ("O.O", declaration .int), (":v", extended .sum)]

/-- The keywords in the order in which messages list them. -/
def names : List String := table.map Prod.fst

/-- What a name announces at the head of a line. -/
def ofName? (name : String) : Option Keyword := table.lookup name

end Keyword

end Kaomoji
