import OntoTypes.Declaration.Printer
import OntoTypes.Hierarchy.Assembly
import OntoTypes.Hierarchy.Shape
import OntoTypes.LinkedData.Document
import OntoTypes.Triple.Line

/-!
# Generation

From an ontology to a module of type declarations: topics are assembled into a hierarchy, and the
classes of the hierarchy are given their declarations.

Main definitions:

* `Ontology`, `Ontology.topics` — the forms an ontology may come in, and its topics;
* `generate` — the declarations for some topics, with statistics;
* `Generation.render` — the text of the module.
-/

namespace OntoTypes

/-- An ontology as it is read. -/
inductive Ontology where
  | document (document : Json)
  | graph (graph : TripleGraph)

/-- The topics of an ontology. -/
def Ontology.topics (settings : Settings) : Ontology → Attempt (List Topic)
  | document d => (LinkedData.harvest [] d).group settings
  | graph g => ExceptT.lift (groupFacts settings g.facts)

/-- How many of each kind were found. -/
structure Statistics where
  classes     : Nat
  builtins    : Nat
  properties  : Nat
  enumMembers : Nat
  deprecated  : Nat
deriving DecidableEq

namespace Statistics

/-- The counts by name. -/
def entries (s : Statistics) : List (String × Nat) :=
  [("classes", s.classes), ("builtins", s.builtins), ("properties", s.properties),
    ("enum_members", s.enumMembers), ("deprecated", s.deprecated)]

/-- The counts on one line. -/
def text (s : Statistics) : String :=
  "\x7b" ++ ", ".intercalate (s.entries.map fun (name, count) =>
    "'" ++ name ++ "': " ++ toString count) ++ "\x7d"

/-- The counts for a registry. A property counts once, however many classes share it, and only if
one of them is not builtin. -/
def ofRegistry (registry : Registry) : Statistics :=
  let nodes := registry.registeredNodes
  let classes := nodes.filter (!·.isBuiltin)
  -- all that is registered and no class is builtin
  { classes := classes.length
    builtins := nodes.length - classes.length
    properties := (classes.flatMap (·.properties)).eraseDups.length
    enumMembers := (nodes.flatMap (·.members)).length
    deprecated := (classes.filter (·.isDeprecated)).length }

end Statistics

/-- A generated module. -/
structure Generation where
  /-- The declarations of each class, classes in the order in which they are listed. -/
  groups     : List (List Declaration)
  statistics : Statistics

/-- The text of a generated module. -/
def Generation.render (generation : Generation) : String := renderModule generation.groups

/-- The hierarchy of some topics. -/
def registryOf (settings : Settings) (topics : List Topic) : Attempt Registry :=
  match Build.buildRegistry settings topics {} with
  | .ok _ w => ExceptT.mk ⟨.ok w.registry, w.notes⟩
  | .error e w => ExceptT.mk ⟨.error e, w.notes⟩

/-- The module for some topics. -/
def generate (settings : Settings) (topics : List Topic) : Attempt Generation := do
  let registry ← registryOf settings topics
  let groups ← Attempt.ofExcept (registry.synthesize settings)
  return ⟨groups, Statistics.ofRegistry registry⟩

/-- The module for an ontology. -/
def generateFrom (settings : Settings) (ontology : Ontology) : Attempt Generation := do
  generate settings (← ontology.topics settings)

end OntoTypes
