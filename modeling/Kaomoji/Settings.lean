import Kaomoji.Origin
import Kaomoji.Path
import Kaomoji.Target

/-!
# Settings of a compilation

What is compiled under which label, and for which target.  The source text itself is not part of
the settings.
-/

namespace Kaomoji

/-- The label of a unit and the target it is compiled for. -/
structure Settings where
  origin : Origin
  target : Target
deriving DecidableEq

namespace Settings

/-- Settings for a text that was not read from a file. -/
def inMemory : Settings := ⟨.inMemory, .standard⟩

/-- Settings for a file, named by the last part of its path. -/
def ofPath (path : String) (target : Target) : Settings :=
  ⟨⟨Path.fileName? path, some path⟩, target⟩

/-- The label as reports show it: the path if there is one. -/
def displayPath (settings : Settings) : String :=
  settings.origin.path.getD settings.origin.displayName

end Settings

end Kaomoji
