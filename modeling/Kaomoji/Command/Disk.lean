import Kaomoji.Command.Store

/-!
# Files in memory

A disk is a tree of directories and files, given by the places they have below the root, and a
working directory.  Paths lead through it the way they do on a file system: each part is looked up
in the directory reached so far, a single dot stays there, two dots go back, and a path that goes on
behind something that is no directory fails.
-/

namespace Kaomoji

/-- The names on the way from the root. -/
abbrev Location := List String

/-- Directories and files held in memory. -/
structure Disk where
  workingDirectory : Location
  /-- The directories other than the root. -/
  directories : List Location
  /-- The files with their bytes; the first entry of a place counts. -/
  files : List (Location × ByteArray)

namespace Disk

/-- Whether a place is a directory; the root always is. -/
def isDirectory (disk : Disk) (place : Location) : Bool :=
  place.isEmpty || disk.directories.contains place

/-- The bytes of the file at a place. -/
def bytes? (disk : Disk) (place : Location) : Option ByteArray := disk.files.lookup place

/-- The directories on the way to a place, the place itself apart. -/
def above (place : Location) : List Location :=
  (List.range (place.length - 1)).map fun n => place.take (n + 1)

/-- The disk with a directory and all that lead to it. -/
def addDirectory (disk : Disk) (place : Location) : Disk :=
  { disk with directories := above place ++ place :: disk.directories }

/-- The disk with a file and the directories that lead to it. -/
def addFile (disk : Disk) (place : Location) (content : ByteArray) : Disk :=
  { disk with
    directories := above place ++ disk.directories
    files := (place, content) :: disk.files.filter fun entry => entry.1 ≠ place }

/-! ## Following paths -/

/-- The parts of a path. -/
def parts (path : String) : List String := (path.toList.splitOn '/').map String.ofList

/-- Where a path begins. -/
def origin (disk : Disk) (path : String) : Location :=
  if ['/'].isPrefixOf path.toList then [] else disk.workingDirectory

/-- Goes from a place to the place that a part names. -/
def follow (disk : Disk) (place : Location) (part : String) : Except WriteFailure Location :=
  if disk.isDirectory place then
    if part = "" || part = "." then .ok place
    else if part = ".." then .ok place.dropLast
    else .ok (place ++ [part])
  else if (disk.bytes? place).isSome then .error .notADirectory
  else .error .missing

/-- The place that a path leads to, whether there is something or not. -/
def locate (disk : Disk) (path : String) : Except WriteFailure Location :=
  if path = "" then .error .missing
  else (parts path).foldlM disk.follow (disk.origin path)

/-- The place of a file that can be written under a path.  A path that ends in a slash, or in a part
that names no file, can only be a directory. -/
def locateOutput (disk : Disk) (path : String) : Except WriteFailure Location := do
  let names := (parts path).reverse.dropWhile (· = "")
  let place ← names.reverse.foldlM disk.follow (disk.origin path)
  if path = "" then .error .missing
  else if (parts path).getLast? = some "" || names.head? = some "." || names.head? = some ".."
      || disk.isDirectory place then
    .error .isDirectory
  else .ok place

/-! ## Reading and writing -/

/-- The text of the file under a path. -/
def read (disk : Disk) (path : String) : Except ReadFailure String :=
  match disk.locate path with
  | .error _ => .error .missing
  | .ok place =>
    match disk.bytes? place with
    | none => .error .missing
    | some bytes =>
      match String.fromUTF8? bytes with
      | some text => .ok text
      | none => .error .invalidText

/-- Makes a text the content of the file under a path. -/
def write (disk : Disk) (path text : String) : Except WriteFailure Unit × Disk :=
  match disk.locateOutput path with
  | .error failure => (.error failure, disk)
  | .ok place => (.ok (), disk.addFile place text.toUTF8)

/-- The store that is kept on a disk. -/
def store : Store (StateM Disk) where
  read path := do return (← get).read path
  write path text := modifyGet fun disk => disk.write path text

/-- The files of a disk that are new or have other content than on an earlier one. -/
def changes (earlier later : Disk) : List (Location × ByteArray) :=
  later.files.filter fun entry => earlier.bytes? entry.1 != some entry.2

end Disk

end Kaomoji
