import Kaomoji.Statement.MeaningError
import Kaomoji.Tree

/-!
# The meaning of lines

A line's head is looked up among the keywords, and the leaves behind it become the arguments.
Declarations are checked here; calls and extended statements take any arguments, and what a
target cannot express is refused when it is written.
-/

namespace Kaomoji

/-- The declaration of a variable of a type by a line whose keyword stands at `position`. -/
def Statement.ofDeclaration (type : DeclaredType) (position : Position) :
    List Leaf → Except MeaningError Statement
  | [.identifier target] => .ok (.declaration type target)
  | [.number n] => .error (.declarationTarget (Leaf.number n).describe n.position)
  | args => .error (.declarationArity args.length position)

/-- What a line means. -/
def Statement.ofLine (line : Line) : Except MeaningError Statement :=
  match line.leaves with
  | [] => .error .emptyLine
  | .number n :: _ => .error (.notAnIdentifier (Leaf.number n).describe n.position)
  | .identifier head :: args =>
    match Keyword.ofName? head.name with
    | some .call => .ok (.call head args)
    | some (.declaration type) => Statement.ofDeclaration type head.position args
    | some (.extended form) => .ok (.extended form args head.position)
    | none => .error (.unknownKeyword head.name head.position)

/-- What the lines of a tree mean, in order, or why the first line without meaning has none. -/
def Program.ofTree (tree : Tree) : Except MeaningError Program := tree.mapM Statement.ofLine

end Kaomoji
