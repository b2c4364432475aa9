import OntoTypes.Proofs.Expansion
import OntoTypes.Proofs.Relevance

/-!
# Hiding superseded properties

Superseded properties can be left out of a module. That is decided where the record of a class's own
fields is written, and nowhere else: the hierarchy of the topics does not depend on it, nor does
anything that is said about classes, their members or their children. What is left out is the fields
of superseded properties, and what is left of a record keeps its order. A record of which nothing is
left is not written at all.

Main definitions and results:

* `Registry.ownEntries_eq_filter` — the own fields that are written, out of all own fields;
* `Registry.Hides` — the declarations of a class with all of its fields and without some;
* `Registry.hides_declarationsOf` — how the declarations of a class depend on the setting;
* `hides_generate` — one module beside the other.
-/

namespace OntoTypes

/-- Whether an entry is there for a superseded property. -/
def Entry.isSuperseded : Entry → Bool
  | .discriminant _ => false
  | .property node => node.isDeprecated

namespace Registry

variable {registry : Registry}

/-- Everything that can stand in the record of own fields of a class, in order: the field that tells
a leaf from others, then those for all properties of the class. -/
def allEntries (registry : Registry) (c : ClassId) : List Entry :=
  (if registry.isLeaf c then [Entry.discriminant c] else []) ++
    (sortBySubject PropertyNode.subject
      (registry.propertyNodes (registry.nodeOf c).properties)).map Entry.property

/-- The base of a class with the fields for some entries: the bases of the parents, intersected with
the record of these fields, either of which may be missing. -/
def baseWith (registry : Registry) (c : ClassId) (entries : List Entry) : TypeExpr :=
  (Shape.joined ((registry.nodeOf c).parents.map fun p => .link (.base p)) entries).erase registry

/-- The declarations of a class that is not builtin, with the fields for some entries. -/
def groupWith (registry : Registry) (c : ClassId) (entries : List Entry) : List Declaration :=
  (enumerationOf (registry.nodeOf c)).toList ++ [
    .typeAlias (registry.linkName (.base c)) (registry.baseWith c entries) none false,
    .typeAlias (registry.linkName (.whole c))
      ((registry.linkedTotal c (registry.nodeOf c)).erase registry)
      (registry.commentOf (registry.nodeOf c)) true]

/-- The declarations of a class, with the fields for all of its properties and without those for the
superseded ones. -/
inductive Hides (registry : Registry) (c : ClassId) : List Declaration → List Declaration → Prop
  | builtin (group : List Declaration) : registry.isBuiltin c = true → Hides registry c group group
  | plain : registry.isBuiltin c = false →
    Hides registry c (registry.groupWith c (registry.allEntries c))
      (registry.groupWith c ((registry.allEntries c).filter fun entry => !entry.isSuperseded))

/-! ## A single class -/

/-- Which own fields are written is decided for one field after another. -/
theorem ownEntries_eq_filter (settings : Settings) (c : ClassId) :
    registry.ownEntries settings c (registry.nodeOf c) =
      (registry.allEntries c).filter fun entry =>
        settings.includeDeprecated || !entry.isSuperseded := by
  -- properties are hidden after they have been sorted
  have hproperties : (registry.shownProperties settings (registry.nodeOf c)).map Entry.property =
      ((sortBySubject PropertyNode.subject
        (registry.propertyNodes (registry.nodeOf c).properties)).map Entry.property).filter
          fun entry => settings.includeDeprecated || !entry.isSuperseded := by
    rw [List.filter_map, shownProperties]
    rfl
  rw [allEntries, List.filter_append, ← hproperties, ownEntries]
  -- the field that tells a leaf from others is always written
  by_cases hleaf : registry.isLeaf c = true <;> simp [hleaf, Entry.isSuperseded]

/-- A class that is not builtin is declared with the own fields that are written. -/
theorem aliasesOf_eq_groupWith (settings : Settings) {c : ClassId}
    (hprimitive : (registry.nodeOf c).primitive = none) :
    (enumerationOf (registry.nodeOf c)).toList ++
        registry.aliasesOf settings c (registry.nodeOf c) =
      registry.groupWith c (registry.ownEntries settings c (registry.nodeOf c)) := by
  rw [aliasesOf, hprimitive, linkedBase_eq_joined]
  rfl

/-- **The declarations of a class without its superseded properties**, beside those with them. -/
theorem hides_declarationsOf (settings : Settings) {c : ClassId} {node : ClassNode}
    (hnode : registry.node? c = some node) :
    registry.Hides c (registry.declarationsOf { settings with includeDeprecated := true } c)
      (registry.declarationsOf { settings with includeDeprecated := false } c) := by
  rw [declarationsOf, declarationsOf, hnode]
  obtain rfl := nodeOf_eq hnode
  dsimp only
  cases hprimitive : (registry.nodeOf c).primitive with
  | some primitive =>
    -- a builtin data type has no fields, so the setting is not read
    rw [aliasesOf, aliasesOf, hprimitive]
    exact .builtin _ (isBuiltin_of_primitive hnode hprimitive)
  | none =>
    have hplain : registry.isBuiltin c = false := by
      rw [isBuiltin_of_node? hnode, ClassNode.isBuiltin, hprimitive]
      rfl
    -- all entries, if superseded ones are shown
    have hall : registry.ownEntries { settings with includeDeprecated := true } c
        (registry.nodeOf c) = registry.allEntries c := by
      rw [ownEntries_eq_filter, List.filter_eq_self]
      exact fun _ _ => rfl
    -- and those that are not superseded otherwise
    have hkept : registry.ownEntries { settings with includeDeprecated := false } c
        (registry.nodeOf c) = (registry.allEntries c).filter fun entry => !entry.isSuperseded :=
      ownEntries_eq_filter ..
    rw [aliasesOf_eq_groupWith _ hprimitive, aliasesOf_eq_groupWith _ hprimitive, hall, hkept]
    exact .plain hplain

end Registry

/-! ## The whole module -/

/-- Superseded properties are part of the hierarchy, whether they are shown or not. -/
theorem ofTopics_includeDeprecated (settings : Settings) (isShown : Bool) (topics : List Topic) :
    Registry.ofTopics { settings with includeDeprecated := isShown } topics =
      Registry.ofTopics settings topics := by
  rfl

/-- **Hiding superseded properties drops their fields and does nothing else.** With and without
superseded properties, a module is generated for the same topics, and otherwise the same error comes
up. The two modules have the same statistics. Their groups of declarations are those of the same
classes in the same order, and of a class that is not builtin they differ in its base alone: what
the base inherits is the same, and of the own fields those for superseded properties are missing. -/
theorem hides_generate (settings : Settings) (topics : List Topic) :
    match (generate { settings with includeDeprecated := true } topics).outcome,
      (generate { settings with includeDeprecated := false } topics).outcome with
    | .error e, .error e' => e' = e
    | .ok g, .ok g' =>
      g'.statistics = g.statistics ∧
        ∃ registry, (registryOf settings topics).outcome = .ok registry ∧
          ∃ group group' : ClassId → List Declaration,
            g.groups = registry.emissionOrder.map group ∧
              g'.groups = registry.emissionOrder.map group' ∧
              ∀ c ∈ registry.emissionOrder, registry.Hides c (group c) (group' c)
    | _, _ => False := by
  simp only [outcome_generate, ofTopics_includeDeprecated]
  -- the hierarchy is built without a look at the setting, and so is its error
  cases hregistry : Registry.ofTopics settings topics with
  | error e => rfl
  | ok registry =>
    have hwf : registry.WellFormed := by
      obtain ⟨hadmissible, rfl⟩ := Registry.ofTopics_eq_ok_iff.mp hregistry
      exact Registry.wellFormed_hierarchy hadmissible
    -- once there is a hierarchy, the module is written without a further error
    simp only [Except.bind, hwf.synthesize_eq]
    refine ⟨rfl, registry, (outcome_registryOf ..).trans hregistry, _, _, rfl, rfl, fun c hc => ?_⟩
    obtain ⟨node, hnode, -⟩ := hwf.named c (Registry.mem_emissionOrder.mp hc)
    exact Registry.hides_declarationsOf settings hnode

end OntoTypes
