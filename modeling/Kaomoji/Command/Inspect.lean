import Kaomoji.Command.Build

/-!
# Looking into a file

Two commands show how a file is understood without building it: one lists its tokens, the other
its lines and then the statements they mean.  Lines are listed before it is known whether all of
them mean something, so a listing can be followed by an error.
-/

namespace Kaomoji

/-- What a listing shows. -/
inductive Aspect where
  | tokens
  | lines
deriving DecidableEq

namespace Inspect

/-- What is printed for a source, and the error that ends it. -/
structure Listing where
  text : String
  error : Option CompileError := none

/-- The tokens of a source. -/
def tokenListing (path source : String) (settings : Settings) : Listing :=
  match tokensOf source settings with
  | .error e => { text := "", error := some e }
  | .ok tokens =>
    { text := unlines <|
        s!"Tokens for '{path}' ({tokens.length} tokens):" ::
          tokens.map fun token => s!"  {token.text}" }

/-- The lines of a tree, numbered from zero. -/
def treeLines (path : String) (tree : Tree) : List String :=
  s!"Parse result for '{path}':" :: s!"  Lines: {tree.length}" ::
    tree.zipIdx.map fun (line, i) => s!"  [{i}] {line.text}"

/-- The statements of a program, each with its place. -/
def programLines (program : Program) : List String :=
  "" :: s!"IR ({program.length} nodes):" ::
    program.map fun s => s!"  {s.text} @ {s.position.text}"

/-- The lines of a source and the statements they mean. -/
def lineListing (path source : String) (settings : Settings) : Listing :=
  match treeOf source settings with
  | .error e => { text := "", error := some e }
  | .ok tree =>
    match programOfTree tree with
    | .error e => { text := unlines (treeLines path tree), error := some e }
    | .ok program => { text := unlines (treeLines path tree ++ programLines program) }

/-- What is printed for a file, given what reading it yielded. -/
def conclude (aspect : Aspect) (colors : Bool) (path : String)
    (source : Except ReadFailure String) : Outcome :=
  match source with
  | .error failure => { code := 1, stderr := failure.message path ++ "\n" }
  | .ok source =>
    let settings := Settings.ofPath path .standard
    let listing :=
      match aspect with
      | .tokens => tokenListing path source settings
      | .lines => lineListing path source settings
    match listing.error with
    | none => { code := 0, stdout := listing.text }
    | some e => { code := 1, stdout := listing.text, stderr := e.report source settings colors }

/-- Lists an aspect of a file. -/
def run {m : Type → Type} [Monad m] (store : Store m) (terminal : Bool) (aspect : Aspect)
    (path : String) (color : ColorMode) : m Outcome := do
  return conclude aspect (color.useColors terminal) path (← store.read path)

end Inspect

end Kaomoji
