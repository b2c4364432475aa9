import OntoTypes.Json.Basic
import OntoTypes.Number.Shortest
import OntoTypes.Text.Quoted

/-!
# Documents in diagnostics

The one-line form in which an error quotes a document: the words `None`, `True` and `False`, texts
in the quotes of diagnostics, and a blank after every comma and colon.

Main definition: `Json.display`.
-/

namespace OntoTypes.Json

mutual

/-- A document on one line. -/
def display : Json → String
  | null => "None"
  | bool true => "True"
  | bool false => "False"
  | integer n => toString n
  | real x => x.text
  | text s => Text.displayed s
  | array items => "[" ++ ", ".intercalate (displayItems items) ++ "]"
  | object fields => "\x7b" ++ ", ".intercalate (displayFields fields) ++ "\x7d"

def displayItems : List Json → List String
  | [] => []
  | item :: rest => display item :: displayItems rest

def displayFields : List (String × Json) → List String
  | [] => []
  | (key, value) :: rest => (Text.displayed key ++ ": " ++ display value) :: displayFields rest

end

end OntoTypes.Json
