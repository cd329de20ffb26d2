/-!
# Files

What a command needs of the outside world is to read a source and to write a text.  A store
offers both in a monad of its choice, so that a command can be run on the file system and just
as well on files held in memory.
-/

namespace Kaomoji

/-- Why a source could not be read. -/
inductive ReadFailure where
  /-- There is no such file; a directory is none. -/
  | missing
  | denied
  /-- The file holds bytes that are no UTF-8 text. -/
  | invalidText
  | other (reason : String)
deriving DecidableEq

/-- What is printed when the file under a path could not be read. -/
def ReadFailure.message (path : String) : ReadFailure → String
  | missing => s!"uwuc: '{path}' does not exist."
  | denied => s!"uwuc: permission denied reading '{path}'"
  | invalidText => s!"uwuc: '{path}' contains invalid UTF-8 data"
  | other reason => s!"uwuc: error reading '{path}': {reason}"

/-- Why a text could not be written. -/
inductive WriteFailure where
  /-- The path or a directory on it does not exist. -/
  | missing
  /-- Something on the way to the file is no directory. -/
  | notADirectory
  /-- The file is a directory. -/
  | isDirectory
  | other (reason : String)
deriving DecidableEq

/-- The failure in the words of the operating system. -/
def WriteFailure.reason : WriteFailure → String
  | missing => "No such file or directory (os error 2)"
  | notADirectory => "Not a directory (os error 20)"
  | isDirectory => "Is a directory (os error 21)"
  | other reason => reason

/-- What is printed when the file under a path could not be written. -/
def WriteFailure.message (path : String) (failure : WriteFailure) : String :=
  s!"uwuc: cannot write '{path}': {failure.reason}"

/-- Files that can be read and written. -/
structure Store (m : Type → Type) where
  read : String → m (Except ReadFailure String)
  write : String → String → m (Except WriteFailure Unit)

end Kaomoji
