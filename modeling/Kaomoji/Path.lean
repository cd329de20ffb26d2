/-!
# Paths

A path is a text whose parts are divided by slashes.  Empty parts and parts that are a single dot
say nothing, so `a//b/.` leads where `a/b` does.  This module knows what paths look like and not
where they lead.

* The *file name* is the last part that says something, unless that is `..`.
* The *stem* of a file name is what stands before its last dot, and the *extension* what stands
  behind it; a file name whose only dot is its first character has no extension.
-/

namespace Kaomoji.Path

/-- Cuts off slashes and single-dot parts at the end.  The argument is the path from its end. -/
def trimReversed : List Char → List Char
  | '/' :: rest => trimReversed rest
  | ['.'] => []
  | '.' :: '/' :: rest => trimReversed rest
  | path => path

/-- The path up to the end of the last part that says something. -/
def trimmed (path : List Char) : List Char := (trimReversed path.reverse).reverse

/-- The last part of a path. -/
def lastPart (path : List Char) : List Char := (path.reverse.takeWhile (· ≠ '/')).reverse

/-- The file name that a path ends in. -/
def fileNameChars? (path : List Char) : Option (List Char) :=
  let name := lastPart (trimmed path)
  if name = [] || name = ['.', '.'] then none else some name

/-- The file name that a path ends in. -/
def fileName? (path : String) : Option String := (fileNameChars? path.toList).map String.ofList

/-- A file name as its stem and, if it has one, its extension. -/
def splitName (name : List Char) : List Char × Option (List Char) :=
  let extension := (name.reverse.takeWhile (· ≠ '.')).reverse
  let stem := name.take (name.length - extension.length - 1)
  if stem = [] then (name, none) else (stem, some extension)

/-- The extension of the file name that a path ends in. -/
def extension? (path : String) : Option String := do
  let name ← fileNameChars? path.toList
  let (_, extension) := splitName name
  extension.map String.ofList

/-- The path up to the end of its file name's stem, and the extension behind a dot.  A path without
file name stays as it is. -/
def setExtension (path : List Char) (extension : List Char) : List Char :=
  match fileNameChars? path with
  | none => path
  | some name =>
    let kept := trimmed path
    kept.take (kept.length - name.length) ++ (splitName name).1 ++ '.' :: extension

/-- The length of the extension of the file name that a path ends in. -/
def extensionLength (path : List Char) : Nat :=
  match fileNameChars? path with
  | none => 0
  | some name => ((splitName name).2.getD []).length

/-- The path with another extension.  The old one is taken off first, the dot before it left
standing; where that leaves no file name to extend, as with `..x`, the path ends there. -/
def withExtension (path extension : String) : String :=
  let chars := path.toList
  String.ofList (setExtension (chars.take (chars.length - extensionLength chars)) extension.toList)

end Kaomoji.Path
