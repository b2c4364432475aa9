import OntoTypes.FilePath

/-!
# File trees

Files that are given as values instead of lying on a disk, and the way a path takes through them. A
directory is there if some file is in it; the working directory, in which paths start that do not
start at the root, always is.

Main definitions:

* `FileTree` — some files;
* `FileTree.find` — what is found under a path;
* `FileTree.nameOf?` — the name of a place in the working directory.
-/

namespace OntoTypes

/-- Files by place. A place is told by the directories on the way to it from the root. -/
structure FileTree where
  workingDirectory : List (List Char)
  files            : List (List (List Char) × String)

namespace FileTree

/-- The place that a path names, whatever is there. -/
def placeOf (tree : FileTree) (path : String) : List (List Char) :=
  let start := if path.toList.head? = some '/' then [] else tree.workingDirectory
  Text.applyDots (start ++ pathParts path)

/-- Whether there is a directory in a place. -/
def hasDirectory (tree : FileTree) (place : List (List Char)) : Bool :=
  place.isPrefixOf tree.workingDirectory ||
    tree.files.any fun (file, _) => place ≠ file && place.isPrefixOf file

/-- What a path has led to so far. -/
inductive Position where
  | directory (place : List (List Char))
  | file (text : String)
  | missing
  | throughFile
  | tooLong

/-- Where one more part of a path leads. -/
def step (tree : FileTree) (position : Position) (part : List Char) : Position :=
  match position with
  | .directory place =>
    if part = [] || part = ['.'] then position
    else if part = ['.', '.'] then .directory place.dropLast
    else if isLongName part then .tooLong
    else
      let inner := place ++ [part]
      match tree.files.lookup inner with
      | some text => .file text
      | none => if tree.hasDirectory inner then .directory inner else .missing
  | .file _ => .throughFile
  | .missing | .throughFile | .tooLong => position

/-- What is found under a path. -/
def find (tree : FileTree) (path : String) : FileState :=
  let cs := path.toList
  let start := if cs.head? = some '/' then [] else tree.workingDirectory
  if cs.contains '\x00' then .unnameable
  else if isLongPath path then .tooLong
  else if cs.isEmpty then .missing
  else
    match (Text.segments cs).foldl tree.step (.directory start) with
    | .directory _ => .directory
    | .file text => .file text
    | .missing => .missing
    | .throughFile => .throughFile
    | .tooLong => .tooLong

/-- The name of a place in the working directory. -/
def nameOf? (tree : FileTree) (place : List (List Char)) : Option String :=
  let depth := tree.workingDirectory.length
  if tree.workingDirectory.isPrefixOf place then
    some (String.ofList (Text.joinWith '/' (place.drop depth)))
  else none

/-- Some files in a working directory, by name. -/
def ofFiles (workingDirectory : List (List Char)) (files : List (String × String)) : FileTree :=
  { workingDirectory := workingDirectory
    files := files.map fun (name, text) => (workingDirectory ++ pathParts name, text) }

end FileTree

end OntoTypes
