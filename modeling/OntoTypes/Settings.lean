/-!
# Settings

The choices a run of the program depends on.
-/

namespace OntoTypes

/-- What every stage of a run consults. -/
structure Settings where
  /-- The language preferred among comments that are tagged with one. -/
  lang : String := "en"
  /-- Whether merges, missing comments and unused values are reported. -/
  verbose : Bool := false
  /-- Whether properties that have been superseded are given a field. -/
  includeDeprecated : Bool := true
  /-- The namespace the builtin data types are registered under. -/
  namespaceIri : String := "http://schema.org/"
deriving DecidableEq

end OntoTypes
