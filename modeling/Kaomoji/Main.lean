import Kaomoji.Command.Line

/-!
# The program

Runs the command line on the file system.
-/

namespace Kaomoji

/-- Reads a file whole; whatever cannot be opened as a file counts as missing, unless it may not be
read. -/
def readFromDisk (path : String) : IO (Except ReadFailure String) := do
  try
    let bytes ← IO.FS.readBinFile path
    return match String.fromUTF8? bytes with
      | some text => .ok text
      | none => .error .invalidText
  catch e =>
    return match e with
      | .permissionDenied .. => .error .denied
      | _ => .error .missing

/-- Writes a file whole. -/
def writeToDisk (path text : String) : IO (Except WriteFailure Unit) := do
  try
    IO.FS.writeFile path text
    return .ok ()
  catch e =>
    return match e with
      | .noFileOrDirectory .. => .error .missing
      | .inappropriateType _ code _ => .error (if code = 20 then .notADirectory else .isDirectory)
      | e => .error (.other (toString e))

/-- The store that is the file system. -/
def fileSystem : Store IO := ⟨readFromDisk, writeToDisk⟩

end Kaomoji

/-- The program's entry. -/
def main (args : List String) : IO UInt32 := do
  let stderr ← IO.getStderr
  let outcome ←
    Kaomoji.Command.run Kaomoji.fileSystem (← stderr.isTty) (Kaomoji.Command.ofArguments args)
  IO.print outcome.stdout
  stderr.putStr outcome.stderr
  return outcome.code.toUInt32
