import Kaomoji.Diagnostic.Style
import Kaomoji.Path
import Kaomoji.Target

/-!
# Options of a build

The arguments of a build are read in two steps.  First they are seen as items, from left to right:
a target flag, an output option with the argument behind it, a colour flag, an input, or something
that is none of these.  Then the items are gathered; the first item at fault decides the error,
and what concerns all items together is judged last.
-/

namespace Kaomoji

/-! ## Items -/

/-- One item of a build's arguments. -/
inductive BuildItem where
  /-- `--c` or `--python`. -/
  | targetFlag (target : Target)
  /-- `-o` and the path behind it. -/
  | output (path : String)
  /-- `-o` with nothing behind it. -/
  | outputWithoutPath
  /-- `--color=` with the name of a mode. -/
  | color (name : String)
  /-- A file to build. -/
  | input (path : String)
  /-- Anything else that begins with a dash; a dash alone is a file. -/
  | unrecognized (arg : String)
deriving DecidableEq

/-- The flag that chooses a target. -/
def Target.flag (target : Target) : String := s!"--{target.name}"

/-- The text that a colour flag begins with. -/
def colorFlag : String := "--color="

/-- The name in a colour flag. -/
def colorName? (arg : String) : Option String :=
  if colorFlag.toList.isPrefixOf arg.toList then
    some (String.ofList (arg.toList.drop colorFlag.length))
  else none

namespace BuildItem

/-- The item that an argument makes alone. -/
def ofArgument (arg : String) : BuildItem :=
  match Target.all.find? fun target => target.flag == arg with
  | some target => targetFlag target
  | none =>
    match colorName? arg with
    | some name => color name
    | none => if ['-'].isPrefixOf arg.toList && arg.length > 1 then unrecognized arg else input arg

/-- The items of an argument list. -/
def ofArguments : List String → List BuildItem
  | [] => []
  | [arg] => if arg = "-o" then [outputWithoutPath] else [ofArgument arg]
  | arg :: next :: rest =>
    if arg = "-o" then output next :: ofArguments rest
    else ofArgument arg :: ofArguments (next :: rest)

end BuildItem

/-! ## Options -/

/-- What to build, how and where to. -/
structure BuildOptions where
  target : Target
  /-- The output file, if it is not to be named after the input. -/
  output : Option String
  inputs : List String
  color : ColorMode
deriving DecidableEq

/-- Why arguments make no build. -/
inductive OptionError where
  | conflictingTargets (flag earlier : String)
  | outputWithoutPath
  | unknownColor (name : String)
  | unrecognized (arg : String)
  | noInput
  | outputForSeveralInputs
deriving DecidableEq

/-- The error as it is printed behind the name of the command. -/
def OptionError.message : OptionError → String
  | conflictingTargets flag earlier => s!"argument {flag}: not allowed with argument {earlier}"
  | outputWithoutPath => "argument -o: expected an output path"
  | unknownColor name => ColorMode.unknownMessage name
  | unrecognized arg => s!"unrecognized argument '{arg}'"
  | noInput => "missing input file"
  | outputForSeveralInputs => "argument -o: only allowed with a single input file"

namespace BuildOptions

/-- What the items seen so far say. -/
structure Draft where
  target : Option Target := none
  output : Option String := none
  inputs : List String := []
  color : ColorMode := .auto

/-- Takes one more item into account. -/
def Draft.add (draft : Draft) : BuildItem → Except OptionError Draft
  | .targetFlag target =>
    match draft.target with
    | some earlier =>
      if earlier = target then .ok draft
      else .error (.conflictingTargets target.flag earlier.flag)
    | none => .ok { draft with target := some target }
  | .output path => .ok { draft with output := some path }
  | .outputWithoutPath => .error .outputWithoutPath
  | .color name =>
    match ColorMode.ofName? name with
    | some color => .ok { draft with color }
    | none => .error (.unknownColor name)
  | .input path => .ok { draft with inputs := draft.inputs ++ [path] }
  | .unrecognized arg => .error (.unrecognized arg)

/-- The options that all items together make. -/
def Draft.finish (draft : Draft) : Except OptionError BuildOptions :=
  if draft.inputs.isEmpty then .error .noInput
  else if draft.output.isSome && draft.inputs.length > 1 then .error .outputForSeveralInputs
  else
    .ok { target := draft.target.getD .standard
          output := draft.output
          inputs := draft.inputs
          color := draft.color }

/-- The options that items make. -/
def ofItems (items : List BuildItem) : Except OptionError BuildOptions := do
  (← items.foldlM Draft.add {}).finish

/-- The options that arguments make. -/
def ofArguments (args : List String) : Except OptionError BuildOptions :=
  ofItems (BuildItem.ofArguments args)

/-- The file that an input is built to: its own path with the extension of the target, unless
another is named. -/
def outputPath (options : BuildOptions) (input : String) : String :=
  options.output.getD (Path.withExtension input options.target.fileEnding)

end BuildOptions

end Kaomoji
