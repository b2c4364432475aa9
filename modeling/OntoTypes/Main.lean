import OntoTypes.CommandLine

/-!
# The program

The command line of `OntoTypes.CommandLine` on real files. Releases are not downloaded by the
program itself: a request finds no connection, so an ontology has to be given as a file.
-/

open OntoTypes

/-- What is found under a path. What cannot be read as a file counts as a directory. -/
def findFile (path : String) : IO FileState :=
  if path.contains '\x00' then return .unnameable
  else
    try
      return .file (← IO.FS.readFile path)
    catch
      | .noFileOrDirectory .. => return .missing
      | .inappropriateType _ 20 _ => return .throughFile
      | .invalidArgument _ 36 _ => return .tooLong
      | _ => return .directory

/-- Runs the program; the result is its exit code. -/
def main (words : List String) : IO UInt32 := do
  let names := ["SCHEMA_TYPEGEN_SCHEMA", "SCHEMA_TYPEGEN_LAYER", "SCHEMA_TYPEGEN_LANG",
    "SCHEMA_TYPEGEN_VERBOSE"]
  let values ← names.mapM fun name => do return (name, ← IO.getEnv name)
  let env (name : String) : Option String := (values.lookup name).join
  let paths := ((Invocation.parse? env words).map Invocation.paths).getD []
  let states ← paths.mapM fun path => do return (path, ← findFile path)
  let find (path : String) : FileState := (states.lookup path).getD .missing
  let outcome := invoke env find (fun _ => .unreachable "offline") words
  for note in outcome.notes do
    IO.eprintln note.shown
  if let some e := outcome.escaped then
    IO.eprintln e.message
  if let some (path, text) := outcome.written then
    IO.FS.createDirAll (parentPath path)
    IO.FS.writeFile (normalPath path) text
  IO.print outcome.stdout
  return outcome.exitCode.toUInt32
