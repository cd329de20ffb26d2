import Kaomoji.Leaf

/-!
# Words of the target

Names of the source may hold marks that no target allows in an identifier.  Each such mark is
replaced by a word between underscores; the replacement is not looked at again.  Both targets
write names this way, and numbers as plain numerals.
-/

namespace Kaomoji

/-- The marks that targets do not allow, and what stands for them. -/
def markWords : List (Char × String) :=
  [('@', "_at_"), ('!', "_bang_"), ('.', "_dot_"), ('/', "_slash_"), ('\\', "_bslash_"),
   ('~', "_tilde_"), (':', "_colon_")]

/-- What stands for one character of a name. -/
def sanitizeChar (c : Char) : List Char :=
  match markWords.lookup c with
  | some word => word.toList
  | none => [c]

/-- A name as targets write it. -/
def sanitize (name : String) : String := String.ofList (name.toList.flatMap sanitizeChar)

/-- A name as targets write it. -/
def Identifier.word (id : Identifier) : String := sanitize id.name

/-- A leaf as targets write it. -/
def Leaf.word : Leaf → String
  | .identifier id => id.word
  | .number n => n.text

/-- Arguments as targets write them. -/
def argumentList (args : List Leaf) : String := ", ".intercalate (args.map Leaf.word)

end Kaomoji
