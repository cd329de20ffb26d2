/-!
# Targets

A unit can be written in either of two languages.
-/

namespace Kaomoji

/-- The languages that units are written in. -/
inductive Target where
  | c
  | python
deriving DecidableEq

namespace Target

/-- Every target. -/
def all : List Target := [c, python]

/-- The target of a unit that names none. -/
def standard : Target := python

/-- The name by which a target is chosen. -/
def name : Target → String
  | c => "c"
  | python => "python"

/-- The ending of a target's files, without the dot. -/
def fileEnding : Target → String
  | c => "c"
  | python => "py"

/-- The ending of a target's files with its dot. -/
def fileSuffix (target : Target) : String := s!".{target.fileEnding}"

/-- The target with a name. -/
def ofName? (name : String) : Option Target := all.find? fun target => target.name == name

/-- What is said of a name that belongs to no target. -/
def unknownMessage (name : String) : String := s!"unknown backend '{name}' (expected c or python)"

end Target

end Kaomoji
