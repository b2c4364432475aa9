import OntoTypes.Source
import OntoTypes.Text.Lines

/-!
# The command line

`generate` reads an ontology and writes the module of its declarations, to a file or to the standard
output. The release, its layer, the language and the verbosity may also be given by environment
variables; an option goes before a variable, and a variable before the default. A variable that is
empty counts as not set.

Words that are no options have no meaning to `generate`, but help is given even if there are some.

Main definitions:

* `Invocation.parse?` — what the words of a command line ask for, if they are proper;
* `Options.run` — what a generation then comes to, as a value.
-/

namespace OntoTypes

/-- What a generation is to read, write and heed. -/
structure Options where
  version           : String := "3.4"
  layer             : String := "schema"
  lang              : String := "en"
  verbose           : Bool := false
  includeDeprecated : Bool := true
  /-- The file to read instead of downloading a release. -/
  input             : Option String := none
  /-- The file to write instead of the standard output. -/
  output            : Option String := none
  /-- Nothing is asked for but how the program is used. -/
  asksForHelp       : Bool := false
  /-- There are words that are no options. -/
  hasOtherWords     : Bool := false

/-- An option that takes a value. -/
inductive ValueOption where
  | version
  | layer
  | lang
  | input
  | output

/-- An option that takes none. -/
inductive Flag where
  | verbose
  | deprecated
  | noDeprecated
  | help

namespace Options

/-- The options that take a value, by spelling. -/
def valueOptions : List (String × ValueOption) :=
  [("--schema", .version), ("-s", .version), ("--layer", .layer), ("-l", .layer), ("--lang", .lang),
    ("--file", .input), ("-f", .input), ("--output", .output), ("-o", .output)]

/-- The options that take none, by spelling. -/
def flags : List (String × Flag) :=
  [("--verbose", .verbose), ("-v", .verbose), ("--deprecated", .deprecated),
    ("--no-deprecated", .noDeprecated), ("--help", .help)]

def setValue (o : Options) (value : String) : ValueOption → Options
  | .version => { o with version := value }
  | .layer => { o with layer := value }
  | .lang => { o with lang := value }
  | .input => { o with input := some value }
  | .output => { o with output := some value }

def setFlag (o : Options) : Flag → Options
  | .verbose => { o with verbose := true }
  | .deprecated => { o with includeDeprecated := true }
  | .noDeprecated => { o with includeDeprecated := false }
  | .help => { o with asksForHelp := true }

/-- The words by which a variable switches something on or off; blanks alone switch it off. -/
def switch? (word : String) : Option Bool :=
  let trimmed := Text.trimEnd (word.toList.dropWhile Text.isBlank)
  let word := Text.lowercase (String.ofList trimmed)
  if ["1", "true", "t", "yes", "y", "on"].contains word then some true
  else if ["0", "false", "f", "no", "n", "off", ""].contains word then some false
  else none

/-- The value of a variable that is set and not empty. -/
def given? (env : String → Option String) (name : String) : Option String :=
  (env name).filter (· ≠ "")

/-- The options before any is given. -/
def ofEnvironment (env : String → Option String) : Options where
  version := (given? env "SCHEMA_TYPEGEN_SCHEMA").getD "3.4"
  layer := (given? env "SCHEMA_TYPEGEN_LAYER").getD "schema"
  lang := (given? env "SCHEMA_TYPEGEN_LANG").getD "en"

/-- Reads a group of one-letter options; the text behind the letter of an option that takes a value
is its value. The result is whether a value is still to come. -/
def readLetters? (o : Options) : List Char → Option (Options × Option ValueOption)
  | [] => some (o, none)
  | c :: rest =>
    let spelling := String.ofList ['-', c]
    match flags.lookup spelling, valueOptions.lookup spelling with
    | some flag, _ => readLetters? (o.setFlag flag) rest
    | none, some option =>
      if rest.isEmpty then some (o, some option)
      else some (o.setValue (String.ofList rest) option, none)
    | none, none => none

/-- Reads one word of the command line. The result is whether a value is still to come. -/
def readWord? (o : Options) (word : String) : Option (Options × Option ValueOption) :=
  match word.toList with
  | '-' :: '-' :: _ =>
    match Text.cutAt '=' word.toList with
    | (name, some value) =>
      (valueOptions.lookup (String.ofList name)).map fun option =>
        (o.setValue (String.ofList value) option, none)
    | (_, none) =>
      match flags.lookup word with
      | some flag => some (o.setFlag flag, none)
      | none => (valueOptions.lookup word).map fun option => (o, some option)
  | '-' :: c :: rest => readLetters? o (c :: rest)
  | _ => some ({ o with hasOtherWords := true }, none)

/-- Reads the words of the command line. None of those behind `--` is an option. -/
def readWords? (o : Options) : List String → Option Options
  | [] => some o
  | "--" :: rest => some (if rest.isEmpty then o else { o with hasOtherWords := true })
  | word :: rest =>
    match readWord? o word, rest with
    | some (o, none), rest => readWords? o rest
    | some (o, some option), value :: rest => readWords? (o.setValue value option) rest
    | some (_, some _), [] => none
    | none, _ => none

/-- A path and the paths of the directories on the way to it, each also without the parts that are
taken back by `..`. -/
def pathsTo (path : String) : List String :=
  let parts := pathParts path
  (List.range (parts.length + 1)).flatMap fun depth =>
    let place := pathLike path (parts.take depth)
    [place, String.ofList (Text.shortenPath place.toList)]

/-- The paths under which something is looked for. -/
def paths (o : Options) : List String :=
  (o.input.elim [] fun path => [path, normalPath path]) ++
    o.output.elim [] fun path => path :: pathsTo path

def settings (o : Options) : Settings :=
  { lang := o.lang, verbose := o.verbose, includeDeprecated := o.includeDeprecated }

end Options

/-- What the program is asked for. -/
inductive Invocation where
  | help
  | version
  | generate (options : Options)

namespace Invocation

/-- Reads the words before the command: what they ask for by themselves, the first of them deciding,
and the words from the command on. -/
def readLeading? : List String → Option (Option Invocation × List String)
  | [] => some (none, [])
  | "--" :: rest => some (none, rest)
  | "--help" :: rest => (readLeading? rest).map fun (_, rest) => (some help, rest)
  | "--version" :: rest => (readLeading? rest).map fun (_, rest) => (some version, rest)
  | word :: rest =>
    if word.toList.head? = some '-' && word ≠ "-" then none else some (none, word :: rest)

/-- Reads the words behind `generate`. The variable for verbosity is looked at only if verbosity is
not asked for by an option. -/
def readGenerate? (env : String → Option String) (words : List String) : Option Invocation := do
  let o ← Options.readWords? (Options.ofEnvironment env) words
  if o.asksForHelp then return help
  else if o.hasOtherWords then none
  else
    match Options.given? env "SCHEMA_TYPEGEN_VERBOSE" with
    | some word =>
      if o.verbose then return generate o
      else return generate { o with verbose := ← Options.switch? word }
    | none => return generate o

/-- Reads a command line; nothing if it is not a proper one. In the place of a command, behind `--`,
words may still ask for something by themselves. -/
def parse? (env : String → Option String) (words : List String) : Option Invocation := do
  match ← readLeading? words with
  | (some asked, _) => return asked
  | (none, "generate" :: words) => readGenerate? env words
  | (none, rest) => (← readLeading? rest).1

/-- The paths that a command line names. -/
def paths : Invocation → List String
  | generate o => o.paths
  | help | version => []

end Invocation

/-- What an invocation comes to. -/
structure Outcome where
  exitCode : Nat
  stdout   : String := ""
  notes    : List Diagnostic := []
  /-- The path of the file that is written, and its text. -/
  written  : Option (String × String) := none
  /-- An error that the program does not report by itself. -/
  escaped  : Option Error := none

namespace Options

/-- The ontology that an invocation asks for. -/
def ontology (o : Options) (find : String → FileState) (request : Address → Response) :
    Attempt Ontology :=
  match o.input with
  | some path => Attempt.ofExcept (Ontology.ofFile find path)
  | none => do return .document (← download request o.version o.layer)

/-- What keeps a directory from being made where `path` starts, the parts of its path given in
reverse. Directories on the way to it are made as well. -/
def directoryError? (find : String → FileState) (path : String) : List (List Char) → Option Error
  | [] => none
  | part :: above =>
    let place := pathLike path (part :: above).reverse
    let errorIn? : FileState → Option Error
      | .file _ => some (.fileInTheWay place)
      | .throughFile => some (.notDirectory place)
      | .tooLong => some (.pathTooLong place)
      | .unnameable => some .unnameablePath
      | .directory | .missing => none
    match find place with
    | .missing =>
      (directoryError? find path above).or
        (if isLongName part then some (.pathTooLong place)
        else errorIn? (find (String.ofList (Text.shortenPath place.toList))))
    | state => errorIn? state

/-- What keeps a file from being written, if something does. -/
def writeError? (find : String → FileState) (path : String) : Option Error :=
  let place := normalPath path
  let isLong := isLongPath place || (pathParts path).getLast?.any isLongName
  let isDirectory :=
    match find (String.ofList (Text.shortenPath place.toList)) with
    | .directory => true
    | _ => false
  (directoryError? find path (pathParts path).reverse.tail).or
    (if isLong then some (.pathTooLong place)
    else if isDirectory then some (.isDirectory path) else none)

/-- What is printed about a module that has been generated. -/
def report (o : Options) (generation : Generation) : Attempt Unit := do
  if let some path := o.output then
    Attempt.print ("  Declarations written to: " ++ normalPath path)
  Attempt.print ("  Stats:   " ++ generation.statistics.text)

/-- The outcome of a generation. -/
def run (o : Options) (find : String → FileState) (request : Address → Response) : Outcome :=
  let attempt := do generateFrom o.settings (← o.ontology find request)
  match attempt.outcome with
  | .error e =>
    if e.isReported then
      let failed := Attempt.print ("\n[bold red]Failed:[/bold red] " ++ Markup.escape e.message)
      { exitCode := 1, notes := attempt.notes ++ failed.notes }
    else { exitCode := 1, notes := attempt.notes, escaped := some e }
  | .ok generation =>
    match o.output.bind (writeError? find) with
    | some e => { exitCode := 1, notes := attempt.notes, escaped := some e }
    | none =>
      let text := generation.render
      let report := o.report generation
      let escaped := match report.outcome with
        | .ok () => none
        | .error e => some e
      { exitCode := if escaped.isSome then 1 else 0
        stdout := if o.output.isSome then "" else text
        notes := attempt.notes ++ report.notes
        written := o.output.map fun path => (path, text)
        escaped := escaped }

end Options

/-- The outcome of an invocation that is not a proper one. -/
def Outcome.usageError : Outcome := { exitCode := 2 }

/-- How the program is used. -/
def usage : String :=
  "Usage: generate [OPTIONS]\n\n" ++
    "  -s, --schema VERSION             The release to download (3.4).\n" ++
    "  -l, --layer NAME                 Its layer (schema).\n" ++
    "  -f, --file PATH                  Read a file instead of downloading.\n" ++
    "      --lang TAG                   The preferred language of comments (en).\n" ++
    "  -v, --verbose                    Report merges, missing comments and unused values.\n" ++
    "      --deprecated / --no-deprecated  Whether superseded properties get a field.\n" ++
    "  -o, --output PATH                Write to a file instead of the standard output.\n"

/-- The outcome of asking how the program is used. -/
def Outcome.help : Outcome := { exitCode := 0, stdout := usage }

/-- The outcome of asking which version of the program this is. -/
def Outcome.version : Outcome := { exitCode := 0, stdout := "generate, version 0.1.0\n" }

/-- What comes of a file that cannot be what it is named for; what is named for reading has to be
there, what is named for writing must not be a directory. -/
def Options.refusal? (o : Options) (find : String → FileState) : Option Outcome :=
  let ofState (isInput : Bool) : FileState → Option Outcome
    | .file _ => none
    | .directory => some .usageError
    | .unnameable => some { exitCode := 1, escaped := some .unnameablePath }
    | .missing | .throughFile | .tooLong => if isInput then some .usageError else none
  (o.input.bind fun path => ofState true (find path)).or
    (o.output.bind fun path => ofState false (find path))

/-- The outcome of a command line. -/
def invoke (env : String → Option String) (find : String → FileState)
    (request : Address → Response) (words : List String) : Outcome :=
  match Invocation.parse? env words with
  | some .help => .help
  | some .version => .version
  | some (.generate o) => (o.refusal? find).getD (o.run find request)
  | none => .usageError

end OntoTypes
