import OntoTypes.Keyed
import OntoTypes.Number.Binary64

/-!
# Documents

A decoded JSON document. The fields of an object keep the order in which they were written, because
the facts of a document are read off in that order; and a number without point and exponent is a
different value from the same number with one.

Main definitions:

* `Json` — a document;
* `Json.fieldsOfText` — the fields of an object as they were written, a repeated key keeping its
  first place and its last value.
-/

namespace OntoTypes

/-- A JSON document. -/
inductive Json where
  | null
  | bool (value : Bool)
  | integer (value : Int)
  | real (value : Binary64)
  | text (value : String)
  | array (items : List Json)
  | object (fields : List (String × Json))
deriving Inhabited

namespace Json

/-- The text a document consists of, if it is one. -/
def asText? : Json → Option String
  | text s => some s
  | _ => none

/-- Whether the document is the null value. -/
def isNull : Json → Bool
  | null => true
  | _ => false

/-- Whether the document says nothing: the null value, false, zero, or something without parts. -/
def isVoid : Json → Bool
  | null | bool false | integer 0 | real (.finite _ 0 _) | text "" | array [] | object [] => true
  | _ => false

/-- The fields of an object written as `pairs`. -/
def fieldsOfText (pairs : List (String × Json)) : List (String × Json) :=
  pairs.foldl (fun fields pair => Keyed.set pair.1 pair.2 fields) []

/-- The elements of an array; nothing for null; any other document stands for itself alone. -/
def elements : Json → List Json
  | null => []
  | array items => items
  | value => [value]

/-- A field looked up in an object is a smaller document than the object. -/
theorem sizeOf_lookup {key : String} {fields : List (String × Json)} {value : Json}
    (h : fields.lookup key = some value) : sizeOf value < sizeOf (object fields) := by
  have aux : ∀ fields : List (String × Json), fields.lookup key = some value →
      sizeOf value < 1 + sizeOf fields := by
    intro fields
    induction fields with
    | nil => intro h; simp at h
    | cons field rest ih =>
      intro h
      obtain ⟨k, v⟩ := field
      rw [List.lookup_cons] at h
      split at h
      · injection h with h
        subst h
        simp only [List.cons.sizeOf_spec, Prod.mk.sizeOf_spec]
        omega
      · have := ih h
        simp only [List.cons.sizeOf_spec]
        omega
  have := aux fields h
  simpa using this

/-- The elements of a document are no larger than the document. -/
theorem sizeOf_elements {value element : Json} (h : element ∈ value.elements) :
    sizeOf element ≤ sizeOf value := by
  cases value with
  | null => simp [elements] at h
  | array items =>
    have := List.sizeOf_lt_of_mem (show element ∈ items from h)
    simp only [array.sizeOf_spec]
    omega
  | bool | integer | real | text | object =>
    exact Nat.le_of_eq (congrArg sizeOf (List.mem_singleton.mp h))

end Json

end OntoTypes
