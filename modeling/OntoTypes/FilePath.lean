import OntoTypes.Text.Path

/-!
# File paths

Just enough about paths to name files in messages and to tell documents from triples: a path without
empty and `.` parts, and the suffix of its last part.

Main definitions:

* `normalPath`, `fileSuffix`, `isDocumentPath` — what is told from the path alone;
* `FileState` — what is found under a path.
-/

namespace OntoTypes

/-- The parts of a path between slashes, empty and `.` parts left out. -/
def pathParts (path : String) : List (List Char) :=
  (Text.segments path.toList).filter fun part => !part.isEmpty && part ≠ ['.']

/-- The path with the given parts, which starts where `path` starts. -/
def pathLike (path : String) (parts : List (List Char)) : String :=
  match Text.leadingSlashes path.toList ++ Text.joinWith '/' parts with
  | [] => "."
  | cs => String.ofList cs

/-- A path in the form in which messages show it. Exactly two leading slashes are kept apart from
one or more than two. -/
def normalPath (path : String) : String := pathLike path (pathParts path)

/-- The path of the directory that holds what a path names. -/
def parentPath (path : String) : String := pathLike path (pathParts path).dropLast

/-- What follows the last full stop of a file name, with the full stop. A file name that begins or
ends with its last full stop has no suffix. -/
def fileSuffix (path : String) : List Char :=
  let name := (pathParts path).getLast?.getD []
  let suffix := Text.afterLast '.' name
  if suffix.isEmpty || name.length ≤ suffix.length + 1 then [] else '.' :: suffix

/-- Whether a path names a JSON document, by its suffix in any case. -/
def isDocumentPath (path : String) : Bool :=
  let suffix := String.ofList ((fileSuffix path).map Char.toLower)
  suffix = ".jsonld" || suffix = ".json"

/-- Whether a name has more bytes than file systems take. -/
def isLongName (name : List Char) : Bool := 255 < (String.ofList name).utf8ByteSize

/-- Whether a path as a whole has more bytes than file systems take. -/
def isLongPath (path : String) : Bool := 4095 < path.utf8ByteSize

/-- What is found under a path. -/
inductive FileState where
  /-- Nothing, and some part of the path may be missing already. -/
  | missing
  /-- Nothing, because the path leads through a file. -/
  | throughFile
  /-- Nothing, because the path or a name in it is longer than file systems take. -/
  | tooLong
  /-- Nothing, because the path has a null character, with which it is no path. -/
  | unnameable
  | directory
  | file (text : String)

end OntoTypes
