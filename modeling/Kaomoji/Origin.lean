/-!
# Where a unit came from

A source text is compiled as a unit under a label: a name, usually the file name, and a path.
Either may be missing.  The label never changes what a unit means; it only tells the reader of a
message which text is spoken of.
-/

namespace Kaomoji

/-- The label of a unit. -/
structure Origin where
  name : Option String
  path : Option String
deriving DecidableEq, Inhabited

namespace Origin

/-- The name of a text that was not read from a file. -/
def inMemoryName : String := "<string>"

/-- The label of a text that was not read from a file. -/
def inMemory : Origin := ⟨some inMemoryName, none⟩

/-- The label as messages show it: the name, else the path, else a placeholder. -/
def displayName : Origin → String
  | ⟨some name, _⟩ => name
  | ⟨none, some path⟩ => path
  | ⟨none, none⟩ => "<unknown>"

end Origin

end Kaomoji
