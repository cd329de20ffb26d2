import Kaomoji.Command.Options
import Kaomoji.Command.Store
import Kaomoji.Compile
import Kaomoji.Text.WhiteSpace

/-!
# Building files

A build compiles each of its inputs on its own: it reads the source, compiles it and writes the
result.  Inputs do not depend on each other, so the order in which they are built shows only in
the order of the messages, which is that of the inputs.
-/

namespace Kaomoji

/-- What a command leaves behind: the exit code and what it printed. -/
structure Outcome where
  code : Nat
  stdout : String := ""
  stderr : String := ""
deriving DecidableEq

namespace Build

/-- What is to be written for an input, given what reading it yielded, or the message that says why
nothing is. -/
def prepare (options : BuildOptions) (colors : Bool) (input : String)
    (source : Except ReadFailure String) : Except String String :=
  match source with
  | .error failure => .error (failure.message input)
  | .ok source =>
    let settings := Settings.ofPath input options.target
    (compile source settings).mapError fun e => e.report source settings colors

/-- Builds one input; returns the message if it fails. -/
def buildOne {m : Type → Type} [Monad m] (store : Store m) (options : BuildOptions)
    (colors : Bool) (input : String) : m (Option String) := do
  match prepare options colors input (← store.read input) with
  | .error message => return some message
  | .ok text =>
    let output := options.outputPath input
    match ← store.write output text with
    | .ok () => return none
    | .error failure => return some (failure.message output)

/-- A message as it is printed: without white space at its end and on lines of its own. -/
def printed (message : String) : String := String.ofList (Text.trimEnd message.toList) ++ "\n"

/-- What is printed when the inputs have been built, given the message of each that failed. -/
def conclude (options : BuildOptions) (colors : Bool) (messages : List String) : Outcome :=
  if messages.isEmpty then { code := 0 }
  else
    let reporter : Reporter := ⟨colors, none, none⟩
    let summary := if options.inputs.length > 1 then reporter.summary messages.length else ""
    { code := 1, stderr := String.join (messages.map printed) ++ summary }

/-- Builds all inputs. -/
def run {m : Type → Type} [Monad m] (store : Store m) (terminal : Bool)
    (options : BuildOptions) : m Outcome := do
  let colors := options.color.useColors terminal
  let results ← options.inputs.mapM (buildOne store options colors)
  return conclude options colors (results.filterMap id)

end Build

end Kaomoji
