import OntoTypes.Json.Display

/-!
# Errors

Everything that can stop a run, by cause. An error carries what its message mentions; the wording is
given once, by `Error.message`.
-/

namespace OntoTypes

/-- A cause of failure. -/
inductive Error where
  /-- A class named by a fact about `subject` is not registered; `role` says what it was for. -/
  | unresolvedReference (subject reference role : String)
  /-- A subclass edge would let a class be its own ancestor. -/
  | inheritanceCycle (child parent : String)
  /-- No topic declares a class. -/
  | emptyOntology
  /-- A class has a subject that is not an IRI. -/
  | anonymousClass (subject : String)
  /-- A class has an IRI without a local name. -/
  | namelessClass (subject : String)
  /-- A change to a class after the registry was frozen. -/
  | frozenClass (subject : String)
  /-- A declaration after the registry was frozen. -/
  | frozenRegistry
  | fileNotFound (path : String)
  /-- An object that is neither a reference nor a value stands under `key`. -/
  | unsupportedValue (key : String) (value : Json)
  | badLanguageTag (tag : String)
  /-- A language tag that is not a text. -/
  | languageNotText
  /-- A literal that is given both a language and a datatype. -/
  | taggedTwice (tag datatype : String)
  /-- A time that differs from universal time by a day or more. -/
  | offsetOutOfRange (time : String)
  /-- A member of a graph that is not an object. -/
  | memberNotObject
  /-- A member of a graph in which names cannot even be looked for. -/
  | memberNotSearchable
  /-- An identifier that is not a text. -/
  | identifierNotText
  /-- A type tag that cannot be an IRI. -/
  | typeTagNotIri
  /-- A key whose term is declared without an IRI. -/
  | termWithoutIri (key : String)
  /-- A part of a context or of a term's declaration that is not a text. -/
  | declarationNotText (name : String)
  /-- A base that is not a text. -/
  | baseNotText
  /-- A definition of a context that is not an object. -/
  | contextNotObject
  /-- A reference whose authority is not written as one. -/
  | malformedAuthority (reference : String)
  /-- A document that holds no members at all: neither an object nor an array. -/
  | documentNotGraph
  /-- Terms of a context that are declared by means of each other. -/
  | circularContext
  /-- A line that is not a triple, by number from one. -/
  | malformedTriple (line : Nat)
  /-- An escape with the number of no character. -/
  | noSuchCharacter (code : Nat)
  | malformedJson
  /-- An integer with too many digits to be read. -/
  | integerTooLong
  /-- Brackets in each other beyond what is read. -/
  | nestedTooDeep
  /-- Bytes that are not text in the encoding they seem to be in. -/
  | undecodable
  /-- A path with a null character. -/
  | unnameablePath
  /-- A path longer than file systems take, or with a name in it that is. -/
  | pathTooLong (path : String)
  /-- A path that leads to a directory where a file is wanted. -/
  | isDirectory (path : String)
  /-- A path that leads through a file. -/
  | notDirectory (path : String)
  /-- A file in the place of a directory. -/
  | fileInTheWay (path : String)
  /-- A closing tag in a message that closes nothing. -/
  | unmatchedTag (tag : String)
  /-- An address that cannot be sent. -/
  | unsendableUrl
  /-- An answer with a status that is no success. -/
  | httpStatus (status : Nat) (url : String)
  /-- No answer at all. -/
  | connectionFailed (reason : String)

namespace Error

/-- The reason phrase of a status; empty for a status that has none. -/
def reasonPhrase (status : Nat) : String :=
  ([(100, "Continue"), (101, "Switching Protocols"), (102, "Processing"), (103, "Early Hints"),
    (300, "Multiple Choices"), (301, "Moved Permanently"), (302, "Found"), (303, "See Other"),
    (304, "Not Modified"), (305, "Use Proxy"), (307, "Temporary Redirect"),
    (308, "Permanent Redirect"),
    (400, "Bad Request"), (401, "Unauthorized"), (402, "Payment Required"), (403, "Forbidden"),
    (404, "Not Found"), (405, "Method Not Allowed"), (406, "Not Acceptable"),
    (407, "Proxy Authentication Required"), (408, "Request Timeout"), (409, "Conflict"),
    (410, "Gone"), (411, "Length Required"), (412, "Precondition Failed"),
    (413, "Request Entity Too Large"), (414, "Request-URI Too Long"),
    (415, "Unsupported Media Type"), (416, "Requested Range Not Satisfiable"),
    (417, "Expectation Failed"), (418, "I'm a teapot"), (421, "Misdirected Request"),
    (422, "Unprocessable Entity"), (423, "Locked"), (424, "Failed Dependency"), (425, "Too Early"),
    (426, "Upgrade Required"), (428, "Precondition Required"), (429, "Too Many Requests"),
    (431, "Request Header Fields Too Large"), (451, "Unavailable For Legal Reasons"),
    (500, "Internal Server Error"), (501, "Not Implemented"), (502, "Bad Gateway"),
    (503, "Service Unavailable"), (504, "Gateway Timeout"), (505, "HTTP Version Not Supported"),
    (506, "Variant Also Negotiates"), (507, "Insufficient Storage"), (508, "Loop Detected"),
    (510, "Not Extended"), (511, "Network Authentication Required")].lookup status).getD ""

/-- What the first digit of a status says. -/
def statusClass (status : Nat) : String :=
  match status / 100 with
  | 1 => "Informational response"
  | 3 => "Redirect response"
  | 4 => "Client error"
  | 5 => "Server error"
  | _ => "Invalid status code"

/-- The text of an error. -/
def message : Error → String
  | unresolvedReference subject reference role =>
    "Couldn't find " ++ role ++ " " ++ reference ++ " referenced by " ++ subject ++ "."
  | inheritanceCycle child parent =>
    "Making " ++ child ++ " a subclass of " ++ parent ++ " creates a cycle."
  | emptyOntology => "Expected Class topics to exist."
  | anonymousClass subject => "Did not expect a blank node to be a class: " ++ subject
  | namelessClass subject => "IRI required for class node " ++ subject ++ "."
  | frozenClass subject => "Class " ++ subject ++ " is frozen."
  | frozenRegistry => "Class registry is frozen."
  | fileNotFound path => "Ontology file not found: " ++ path
  | unsupportedValue key value => "Unsupported JSON-LD value for " ++ key ++ ": " ++ value.display
  | badLanguageTag tag => Text.displayed tag ++ " is not a language tag."
  | languageNotText => "A language tag has to be a text."
  | taggedTwice tag datatype =>
    "A literal has no datatype beside its language: " ++ tag ++ ", " ++ datatype ++ "."
  | offsetOutOfRange time => time ++ " differs from universal time by a day or more."
  | memberNotObject | memberNotSearchable => "A member of a graph has to be an object."
  | identifierNotText => "An identifier has to be a text."
  | typeTagNotIri => "A type tag has to be an IRI."
  | termWithoutIri key => "The term " ++ key ++ " has no IRI."
  | declarationNotText name => "The declaration of " ++ name ++ " has to be made of texts."
  | baseNotText => "The base of a context has to be a text."
  | contextNotObject => "A definition of a context has to be an object."
  | malformedAuthority reference => "The authority of " ++ reference ++ " is malformed."
  | documentNotGraph => "A document has to be an object or an array."
  | circularContext => "The terms of a context are declared by means of each other."
  | malformedTriple line => "Line " ++ toString line ++ " is not a triple."
  | noSuchCharacter code => "There is no character with the number " ++ toString code ++ "."
  | malformedJson => "The text is not a JSON document."
  | integerTooLong => "An integer has too many digits."
  | nestedTooDeep => "The brackets are nested too deep."
  | undecodable => "The bytes are not text."
  | unnameablePath => "A path has no null characters."
  | pathTooLong path => path ++ " is too long for a path."
  | isDirectory path => path ++ " is a directory."
  | notDirectory path => path ++ " leads through a file."
  | fileInTheWay path => path ++ " is a file."
  | unmatchedTag tag => "The tag [" ++ tag ++ "] closes nothing."
  | unsendableUrl => "The address cannot be sent."
  | httpStatus status url =>
    statusClass status ++ " '" ++ toString status ++ " " ++ reasonPhrase status ++ "' for url '" ++
      url ++ "'\nFor more information check: " ++
      "https://developer.mozilla.org/en-US/docs/Web/HTTP/Status/" ++ toString status
  | connectionFailed reason => reason

/-- Failures of the ontology itself and of its download, which end the program with a message. -/
def isReported : Error → Bool
  | unresolvedReference .. | inheritanceCycle .. | emptyOntology | anonymousClass _
  | namelessClass _ | httpStatus .. | connectionFailed _ => true
  | _ => false

end Error

end OntoTypes
