import OntoTypes.Address
import OntoTypes.Console
import OntoTypes.FilePath
import OntoTypes.Generation
import OntoTypes.Json.Encoding

/-!
# Where ontologies come from

An ontology is read from a file — a JSON document or a list of triples, by the suffix of the file —
or downloaded as one of the published releases.

Main definitions:

* `Ontology.ofFile` — the ontology in a file;
* `releaseAddress`, `download` — a published release.
-/

namespace OntoTypes

/-- The ontology in the file under a path; `find` says what is found under a path. -/
def Ontology.ofFile (find : String → FileState) (path : String) : Except Error Ontology :=
  let place := normalPath path
  match find place with
  | .file text =>
    if isDocumentPath path then (Json.parse text).map .document
    else (TripleGraph.parse text).map .graph
  | .directory => .error (.isDirectory place)
  | .tooLong => .error (.pathTooLong place)
  | .missing | .throughFile | .unnameable => .error (.fileNotFound place)

/-- Where a release of the ontology is published. -/
def releaseAddress (version layer : String) : Address where
  site := "https://schema.org"
  rest := "/version/" ++ version ++ "/" ++ layer ++ ".jsonld"

/-- What came of a request. -/
inductive Response where
  | answer (status : Nat) (body : String)
  | unreachable (reason : String)

/-- The document that came as the answer to a request. -/
def readResponse (address : Address) : Response → Except Error Json
  | .unreachable reason => .error (.connectionFailed reason)
  | .answer status body =>
    if status / 100 = 2 then Json.parseBytes body.toUTF8
    else .error (.httpStatus status address.sent)

/-- Downloads a release; `request` says what came of the request for an address. -/
def download (request : Address → Response) (version layer : String) : Attempt Json := do
  let address := releaseAddress version layer
  Attempt.print ("  Fetching " ++ address.text ++ "...")
  if address.isSendable then Attempt.ofExcept (readResponse address (request address))
  else throw .unsendableUrl

end OntoTypes
