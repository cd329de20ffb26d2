import Kaomoji.CompileError
import Kaomoji.Diagnostic.Report
import Kaomoji.Settings
import Kaomoji.Statement.Meaning
import Kaomoji.Target.Generator
import Kaomoji.Tree.Parser

/-!
# Compilation

A unit passes through four phases,

```text
text → tokens → lines of leaves → statements → text of the target
```

and the first error of any phase ends it.  Tokens are made while lines are read, so of a lexical
error and a misplaced token the one that comes first in the text is reported.
-/

namespace Kaomoji

/-- The tokens of a text through the end-of-file token. -/
def tokensOf (source : String) (settings : Settings) : Except CompileError (List Token) :=
  (tokenize source settings.origin).mapError .lexical

/-- The lines of a text. -/
def treeOf (source : String) (settings : Settings) : Except CompileError Tree :=
  (parseText source settings.origin).mapError .ofParseError

/-- The statements that lines mean. -/
def programOfTree (tree : Tree) : Except CompileError Program :=
  (Program.ofTree tree).mapError .meaning

/-- The statements of a text. -/
def programOf (source : String) (settings : Settings) : Except CompileError Program := do
  programOfTree (← treeOf source settings)

/-- Compiles a text into a sink that holds at most `limit` bytes.  What was written before an error
stays in the sink. -/
def compileTo (source : String) (settings : Settings) (limit : Option Nat) :
    Except CompileError Unit × Sink :=
  match programOf source settings with
  | .error e => (.error e, .empty limit)
  | .ok program =>
    let (result, sink) := settings.target.compile program limit
    (result.mapError .emission, sink)

/-- Compiles a text. -/
def compile (source : String) (settings : Settings) : Except CompileError String :=
  let (result, sink) := compileTo source settings none
  result.map fun _ => sink.text

/-- The report of an error with a snippet of the text it arose in. -/
def CompileError.report (e : CompileError) (source : String) (settings : Settings)
    (colors : Bool) : String :=
  let reporter : Reporter := ⟨colors, some source, some settings.displayPath⟩
  reporter.report e.diagnostic

end Kaomoji
