import Kaomoji.Command.Inspect

/-!
# The command line

The first argument chooses the command.  A source file or a build flag in its place stands for a
build with all arguments.
-/

namespace Kaomoji

/-- What the command line asks for. -/
inductive Command where
  | usage
  | version
  | build (args : List String)
  | inspect (aspect : Aspect) (args : List String)
  | unknown (word : String)
deriving DecidableEq

/-- The word that asks for an aspect. -/
def Aspect.command : Aspect → String
  | .tokens => "lex"
  | .lines => "parse"

namespace Command

/-- The extension of source files, in either case of letters. -/
def sourceExtension : String := "uwu"

/-- Whether an argument is a path to a source file. -/
def isSource (arg : String) : Bool :=
  (Path.extension? arg).any fun extension =>
    extension.toList.map Char.toLower == sourceExtension.toList

/-- Whether an argument is one that builds know. -/
def isBuildFlag (arg : String) : Bool :=
  Target.all.any (fun target => target.flag == arg) || arg == "-o" || (colorName? arg).isSome

/-- The command that arguments ask for; without arguments it is the usage. -/
def ofArguments : List String → Command
  | [] => usage
  | word :: rest =>
    if word = "build" then build rest
    else if word = Aspect.tokens.command then inspect .tokens rest
    else if word = Aspect.lines.command then inspect .lines rest
    else if ["help", "--help", "-h"].contains word then usage
    else if ["version", "--version", "-V"].contains word then version
    else if isSource word || isBuildFlag word then build (word :: rest)
    else unknown word

/-! ## Arguments of a listing -/

/-- Why arguments ask for no listing. -/
inductive InspectError where
  | unknownColor (name : String)
  | unexpected (arg : String)
  | noPath
deriving DecidableEq

/-- What is printed for arguments that ask for no listing. -/
def InspectError.text (aspect : Aspect) : InspectError → String
  | unknownColor name => s!"uwuc {aspect.command}: {ColorMode.unknownMessage name}\n"
  | unexpected arg => s!"uwuc {aspect.command}: unexpected argument '{arg}'\n"
  | noPath => s!"Usage: uwuc {aspect.command} <file.uwu>\n"

/-- The path and the colour mode that arguments name, given what earlier ones did. -/
def inspectArguments (path : Option String) (color : ColorMode) :
    List String → Except InspectError (String × ColorMode)
  | [] =>
    match path with
    | some path => .ok (path, color)
    | none => .error .noPath
  | arg :: rest =>
    match colorName? arg with
    | some name =>
      match ColorMode.ofName? name with
      | some color => inspectArguments path color rest
      | none => .error (.unknownColor name)
    | none =>
      match path with
      | none => inspectArguments (some arg) color rest
      | some _ => .error (.unexpected arg)

/-! ## Fixed texts -/

/-- What the version command prints. -/
def versionText : String := "UwU Compiler 0.1.0\n"

/-- What the usage command prints. -/
def usageText : String := unlines
  [ "UwU Compiler",
    "",
    "Usage: uwuc <command> [options]",
    "",
    "Commands:",
    "  build <file.uwu>...  Compile to C or Python (default: Python)",
    "  lex <file.uwu>       Tokenize and display tokens",
    "  parse <file.uwu>     Parse and display the line tree and IR",
    "  help                 Show this help message",
    "  version              Show version information",
    "",
    "Build options:",
    "  --c                 Emit C (<file>.c)",
    "  --python            Emit Python (<file>.py)",
    "  -o <path>           Output file (single input only)",
    "",
    "Common options:",
    "  --color=<mode>      Diagnostic colors: auto, always, never",
    "",
    "Environment:",
    "  RUST_LOG            Enable logging, e.g. RUST_LOG=uwu_parse=debug",
    "  UWU_LOG_TREE        Show logs as an indented span tree",
    "",
    "Examples:",
    "  uwuc hello.uwu                  # Same as `uwuc build hello.uwu`",
    "  uwuc build --c hello.uwu        # Writes hello.c",
    "  uwuc build -o out.py hello.uwu",
    "  uwuc build --c a.uwu b.uwu      # Files are compiled in parallel",
    "  uwuc lex hello.uwu" ]

/-- What is printed for arguments that make no build. -/
def optionErrorText (e : OptionError) : String :=
  unlines
    [s!"uwuc build: {e.message}", "Usage: uwuc build [--c | --python] [-o <out>] <file.uwu>..."]

/-! ## Running -/

/-- Runs a command; `terminal` tells whether messages go to a terminal. -/
def run {m : Type → Type} [Monad m] (store : Store m) (terminal : Bool) : Command → m Outcome
  | usage => pure { code := 0, stdout := usageText }
  | version => pure { code := 0, stdout := versionText }
  | build args =>
    match BuildOptions.ofArguments args with
    | .ok options => Build.run store terminal options
    | .error e => pure { code := 1, stderr := optionErrorText e }
  | inspect aspect args =>
    match inspectArguments none .auto args with
    | .ok (path, color) => Inspect.run store terminal aspect path color
    | .error e => pure { code := 1, stderr := e.text aspect }
  | unknown word =>
    pure { code := 1, stdout := usageText, stderr := s!"Unknown command: {word}\n\n" }

end Command

end Kaomoji
