import OntoTypes.Proofs.CaseKeys
import OntoTypes.Proofs.Linked

/-!
# What lists remember of the order in which they grew

Classes, the children of a class and its fields are listed by name, then by identifier, and a sort
is stable: what has the same key stays in the order in which it came. So a list forgets that order
exactly if no two different things in it have the same key.

Keys are made of case folded and case swapped texts, and different identifiers can have the same
one. The name is no help there: its key can be read off the key of the identifier. What is enough
are identifiers all of whose characters come back when their case is swapped twice, as those of
ASCII do.

Main definitions and results:

* `filter_sortOn`, `sortOn_filterMap_forgets_iff` — stability, and what a sort forgets;
* `SubjectKey.of_iri_eq_iff` — when subjects have the same key;
* `Registry.emissionKey`, `Registry.listedChildren` — what is listed, and by what;
* `lists_forget_iff` — when the lists of a module forget the order in which they grew.
-/

namespace OntoTypes

/-! ## What a sort forgets -/

namespace Text

variable {compareKeys : κ → κ → Ordering} [Std.TransCmp compareKeys]

/-- Of two keys, one does not come after the other. -/
theorem isLE_or_isLE (a b : κ) :
    ((compareKeys a b).isLE || (compareKeys b a).isLE) = true := by
  have hswap : compareKeys b a = (compareKeys a b).swap := Std.OrientedCmp.eq_swap
  rw [hswap]
  cases compareKeys a b <;> rfl

/-- **Items with the same key stay in the order in which they came.** -/
theorem filter_sortOn (key : α → κ) (k : κ) (items : List α) :
    (sortOn compareKeys key items).filter (fun item => compareKeys (key item) k = .eq) =
      items.filter fun item => compareKeys (key item) k = .eq := by
  set same : α → Bool := fun item => compareKeys (key item) k = .eq with hsame
  -- items with one key are in order, however they come
  have hordered : (items.filter same).Pairwise fun a b =>
      (compareKeys (key a) (key b)).isLE = true := by
    refine List.pairwise_of_forall_mem_list fun a ha b hb => ?_
    have hleft : compareKeys (key a) k = .eq := of_decide_eq_true (List.mem_filter.mp ha).2
    have hright : compareKeys k (key b) = .eq :=
      Std.OrientedCmp.eq_comm.mp (of_decide_eq_true (List.mem_filter.mp hb).2)
    refine Std.TransCmp.isLE_trans (b := k) ?_ ?_
    · rw [hleft]
      rfl
    · rw [hright]
      rfl
  -- they are in order as they are, so the sort leaves them like that, and it loses none
  have hsublist : (items.filter same).Sublist (sortOn compareKeys key items) :=
    List.sublist_mergeSort (fun _ _ _ => Std.TransCmp.isLE_trans) (fun _ _ => isLE_or_isLE _ _)
      hordered List.filter_sublist
  have hfiltered := hsublist.filter same
  rw [List.filter_filter] at hfiltered
  simp only [Bool.and_self] at hfiltered
  exact (hfiltered.eq_of_length ((sortOn_perm ..).filter same).length_eq.symm).symm

/-- **A sort forgets the order in which items come**, exactly if no two different ones have the same
key. From left to right this takes two rearrangements that differ in which of two tied items comes
first. -/
theorem sortOn_filterMap_forgets_iff {key : β → κ} {f : α → Option β} {items : List α} :
    (∀ items', items.Perm items' →
        sortOn compareKeys key (items'.filterMap f) =
          sortOn compareKeys key (items.filterMap f)) ↔
      ∀ a ∈ items.filterMap f, ∀ b ∈ items.filterMap f,
        compareKeys (key a) (key b) = .eq → a = b := by
  constructor
  · intro hforgets a ha b hb hkey
    by_contra hne
    -- two different items with one key, and what they are read off
    obtain ⟨x, hx, hreadX⟩ := List.mem_filterMap.mp ha
    obtain ⟨y, hy, hreadY⟩ := List.mem_filterMap.mp hb
    have hother : y ≠ x := by
      rintro rfl
      exact hne (Option.some.inj (hreadX.symm.trans hreadY))
    -- the two may come first, in either order
    obtain ⟨before, after, rfl⟩ := List.append_of_mem hx
    have hrest : y ∈ before ++ after := by
      simpa [hother] using hy
    obtain ⟨before', after', hsplit⟩ := List.append_of_mem hrest
    have hfirst : (before ++ x :: after).Perm (x :: y :: (before' ++ after')) := by
      refine List.perm_middle.trans (.cons x ?_)
      rw [hsplit]
      exact List.perm_middle
    have hsecond := hfirst.trans (.swap y x (before' ++ after'))
    have hsorted := (hforgets _ hfirst).trans (hforgets _ hsecond).symm
    -- the sort keeps them as they come, so it remembers which one came first
    have hkept := congrArg (List.filter fun item => compareKeys (key item) (key a) = .eq) hsorted
    have hself : compareKeys (key a) (key a) = .eq := Std.ReflCmp.compare_self
    have hback : compareKeys (key b) (key a) = .eq := Std.OrientedCmp.eq_comm.mp hkey
    rw [filter_sortOn, filter_sortOn, List.filterMap_cons_some hreadX,
      List.filterMap_cons_some hreadY, List.filterMap_cons_some hreadY,
      List.filterMap_cons_some hreadX] at hkept
    simp only [List.filter_cons, hself, hback, decide_true, if_true, List.cons.injEq] at hkept
    exact hne hkept.1
  · -- without such items, the result is determined by what is sorted
    intro hkey items' hperm
    refine (sortOn_eq_of_perm (hperm.filterMap f) hkey).symm

/-- The same where nothing is left out before the sort. -/
theorem sortOn_forgets_iff {key : α → κ} {items : List α} :
    (∀ items', items.Perm items' →
        sortOn compareKeys key items' = sortOn compareKeys key items) ↔
      ∀ a ∈ items, ∀ b ∈ items, compareKeys (key a) (key b) = .eq → a = b := by
  have hall : (∀ items', items.Perm items' →
        sortOn compareKeys key (items'.filterMap some) =
          sortOn compareKeys key (items.filterMap some)) ↔ _ :=
    sortOn_filterMap_forgets_iff
  simpa only [List.filterMap_some] using hall

end Text

open Text

/-! ## When keys are the same -/

/-- The name does not tell apart what the identifier does not. -/
theorem SubjectKey.of_iri_eq_iff {a b : String} :
    SubjectKey.of (.iri a) = SubjectKey.of (.iri b) ↔ SortKey.of a = SortKey.of b := by
  constructor
  · exact fun h => congrArg SubjectKey.identifier h
  · intro h
    have hname : SortKey.of (localName a) = SortKey.of (localName b) := by
      rw [SortKey.of_localName, SortKey.of_localName, h]
    rw [SubjectKey.of, SubjectKey.of, SubjectKey.mk.injEq]
    exact ⟨hname, h⟩

/-- Keys that compare as equal are the same, so that ties can be spoken of as equations. -/
theorem SubjectKey.compare_eq_iff {a b : SubjectKey} : a.compare b = .eq ↔ a = b := by
  constructor
  · exact SubjectKey.eq_of_compare
  · rintro rfl
    exact Std.ReflCmp.compare_self

/-- Likewise for the keys of classes. -/
theorem EmissionKey.compare_eq_iff {a b : EmissionKey} : a.compare b = .eq ↔ a = b := by
  constructor
  · exact EmissionKey.eq_of_compare
  · rintro rfl
    exact Std.ReflCmp.compare_self

/-! ## What is listed -/

namespace Registry

variable (registry : Registry)

/-- The key of a class. -/
def emissionKey (c : ClassId) : EmissionKey :=
  ⟨registry.isBuiltin c, SubjectKey.of (registry.subjectOf c)⟩

/-- The children of a class in the order in which its public type names them. -/
def listedChildren (node : ClassNode) : List ClassNode :=
  sortBySubject ClassNode.subject (registry.nodes node.children)

variable {registry}

/-- The order of classes is a sort of what is registered. -/
theorem emissionOrder_eq_sortOn :
    registry.emissionOrder =
      sortOn EmissionKey.compare registry.emissionKey registry.registered :=
  rfl

/-- What is recorded about classes makes their keys. -/
theorem emissionKey_congr {registry' : Registry} (h : registry'.classes = registry.classes) :
    registry'.emissionKey = registry.emissionKey := by
  have hnode : registry'.node? = registry.node? := by
    funext c
    rw [node?, node?, h]
  funext c
  rw [emissionKey, emissionKey, isBuiltin, isBuiltin, subjectOf, subjectOf, hnode]

/-- The order of classes forgets when they were registered. -/
theorem emissionOrder_forgets_iff :
    (∀ registry' : Registry, registry'.classes = registry.classes →
        registry.registered.Perm registry'.registered →
          registry'.emissionOrder = registry.emissionOrder) ↔
      ∀ c ∈ registry.registered, ∀ d ∈ registry.registered,
        registry.emissionKey c = registry.emissionKey d → c = d := by
  simp only [← EmissionKey.compare_eq_iff]
  rw [← sortOn_forgets_iff]
  constructor
  · intro hforgets ids hperm
    -- registered in that order, under whatever identifiers
    set registry' : Registry := { registry with index := ids.map fun c => ("", c) } with hregistry
    have hids : registry'.registered = ids := by
      rw [hregistry, registered, List.map_map]
      exact List.map_id ids
    have horder := hforgets registry' rfl (hids.symm ▸ hperm)
    rw [emissionOrder_eq_sortOn, hids] at horder
    exact horder
  · -- classes have their keys from the table of classes, which is the same
    intro hforgets registry' hclasses hperm
    rw [emissionOrder_eq_sortOn, emissionKey_congr hclasses, hforgets _ hperm]
    rfl

/-- The children in a public type forget the order in which they were attached. -/
theorem listedChildren_forgets_iff {node : ClassNode} :
    (∀ children, node.children.Perm children →
        registry.listedChildren { node with children := children } = registry.listedChildren node ∧
          registry.closedShape { node with children := children } = registry.closedShape node) ↔
      ∀ a ∈ registry.nodes node.children, ∀ b ∈ registry.nodes node.children,
        SubjectKey.of a.subject = SubjectKey.of b.subject → a = b := by
  simp only [← SubjectKey.compare_eq_iff]
  rw [nodes, ← sortOn_filterMap_forgets_iff]
  constructor
  · exact fun hforgets children hperm => (hforgets children hperm).1
  · -- the list forgets, and the public type is made from the list
    intro hforgets children hperm
    have hlisted : registry.listedChildren { node with children := children } =
        registry.listedChildren node := hforgets children hperm
    refine ⟨hlisted, ?_⟩
    -- beside the children it lists, a public type only asks whether there are any
    have hshape : ∀ node, registry.closedShape node = (do
        let base := TypeExpr.reference (← node.baseName)
        if node.children.isEmpty then return base
        else
          let itself := TypeExpr.intersection [.record [node.discriminant], base]
          return .union (itself :: (← typeReferences (registry.listedChildren node)))) :=
      fun _ => rfl
    rw [hshape, hshape, hlisted, ← hperm.isEmpty_eq]
    rfl

/-- The fields of a record forget the order in which the properties were attached. -/
theorem shownProperties_forgets_iff {node : ClassNode} :
    (∀ properties, node.properties.Perm properties → ∀ settings c,
        registry.shownProperties settings { node with properties := properties } =
            registry.shownProperties settings node ∧
          registry.ownFields settings c { node with properties := properties } =
            registry.ownFields settings c node) ↔
      ∀ a ∈ registry.propertyNodes node.properties, ∀ b ∈ registry.propertyNodes node.properties,
        SubjectKey.of a.subject = SubjectKey.of b.subject → a = b := by
  simp only [← SubjectKey.compare_eq_iff]
  rw [propertyNodes, ← sortOn_filterMap_forgets_iff]
  constructor
  · intro hforgets properties hperm
    -- all of them are shown if deprecated ones are
    have hall := (hforgets properties hperm { includeDeprecated := true } 0).1
    simp only [shownProperties, Bool.true_or, List.filter_true] at hall
    exact hall
  · -- hiding some of them comes after the sort
    intro hforgets properties hperm settings c
    have hsorted : sortBySubject PropertyNode.subject (registry.propertyNodes properties) =
        sortBySubject PropertyNode.subject (registry.propertyNodes node.properties) :=
      hforgets properties hperm
    have hshown : registry.shownProperties settings { node with properties := properties } =
        registry.shownProperties settings node := by
      rw [shownProperties, shownProperties, hsorted]
    refine ⟨hshown, ?_⟩
    rw [ownFields, ownFields, hshown]
    rfl

end Registry

/-- **What lists remember of the order in which they grew.** Two classes have the same key exactly
if both are builtin or neither is, and their identifiers have the same key; identifiers that are
steady, such as those in ASCII, have different keys if they are different. The order in which
classes are emitted does not depend on the order in which they were registered, exactly if no two
registered classes have the same key. Neither do the children that a public type names depend on the
order in which they were attached, nor the fields of a record, exactly if no two different ones have
the same key. -/
theorem lists_forget_iff (registry : Registry) :
    (∀ (x y : Bool) (a b : String),
      EmissionKey.mk x (.of (.iri a)) = EmissionKey.mk y (.of (.iri b)) ↔
        x = y ∧ SortKey.of a = SortKey.of b) ∧
    (∀ a b : Term, IsSteady a.text → IsSteady b.text → SubjectKey.of a = SubjectKey.of b →
      a.text = b.text) ∧
    ((∀ registry' : Registry, registry'.classes = registry.classes →
        registry.registered.Perm registry'.registered →
          registry'.emissionOrder = registry.emissionOrder) ↔
      ∀ c ∈ registry.registered, ∀ d ∈ registry.registered,
        registry.emissionKey c = registry.emissionKey d → c = d) ∧
    ∀ node : ClassNode,
      ((∀ children, node.children.Perm children →
          registry.listedChildren { node with children := children } =
              registry.listedChildren node ∧
            registry.closedShape { node with children := children } =
              registry.closedShape node) ↔
        ∀ a ∈ registry.nodes node.children, ∀ b ∈ registry.nodes node.children,
          SubjectKey.of a.subject = SubjectKey.of b.subject → a = b) ∧
      ((∀ properties, node.properties.Perm properties → ∀ settings c,
          registry.shownProperties settings { node with properties := properties } =
              registry.shownProperties settings node ∧
            registry.ownFields settings c { node with properties := properties } =
              registry.ownFields settings c node) ↔
        ∀ a ∈ registry.propertyNodes node.properties,
          ∀ b ∈ registry.propertyNodes node.properties,
            SubjectKey.of a.subject = SubjectKey.of b.subject → a = b) := by
  refine ⟨fun x y a b => ?_, fun a b ha hb hkey => ?_, Registry.emissionOrder_forgets_iff,
    fun node => ⟨Registry.listedChildren_forgets_iff, Registry.shownProperties_forgets_iff⟩⟩
  · rw [EmissionKey.mk.injEq, SubjectKey.of_iri_eq_iff]
  · exact SortKey.eq_of_isSteady ha hb (congrArg SubjectKey.identifier hkey)

/-- A class with a sharp s in its name, and one with two letters in its place. -/
def streets : List Topic := [
  { subject := .iri "http://schema.org/Straße", types := [.iri classType] },
  { subject := .iri "http://schema.org/Strasse", types := [.iri classType] }]

/-- The two classes have different identifiers and the same key, so the order in which they are
emitted is the one in which they come. Had they been named in ASCII, they would have different
keys. -/
theorem lists_forget_iff_streets :
    (hierarchy {} streets).subjectText 6 = "http://schema.org/Straße" ∧
      (hierarchy {} streets).subjectText 7 = "http://schema.org/Strasse" ∧
      (hierarchy {} streets).emissionKey 6 = (hierarchy {} streets).emissionKey 7 ∧
      (∃ registry : Registry, registry.classes = (hierarchy {} streets).classes ∧
        (hierarchy {} streets).registered.Perm registry.registered ∧
          registry.emissionOrder ≠ (hierarchy {} streets).emissionOrder) ∧
      SubjectKey.of (.iri "http://schema.org/Street") ≠
        SubjectKey.of (.iri "http://schema.org/street") := by
  obtain ⟨hkeys, hsteady, horder, -⟩ := lists_forget_iff (hierarchy {} streets)
  -- case folding takes the one letter for the two others
  have hsame : SortKey.of "http://schema.org/Straße" = SortKey.of "http://schema.org/Strasse" := by
    rw [SortKey.of, SortKey.of, SortKey.mk.injEq]
    decide
  have hkey : (hierarchy {} streets).emissionKey 6 = (hierarchy {} streets).emissionKey 7 :=
    (hkeys false false _ _).mpr ⟨rfl, hsame⟩
  refine ⟨by decide, by decide, hkey, ?_, fun h => ?_⟩
  · -- a tie is enough for the order to depend on how the classes came
    by_contra hnone
    push Not at hnone
    have hforgets := horder.mp fun registry hclasses hperm => hnone registry hclasses hperm
    exact absurd (hforgets 6 (by decide) 7 (by decide) hkey) (by decide)
  · have htext := hsteady _ _ (isSteady_of_ascii (by decide)) (isSteady_of_ascii (by decide)) h
    exact absurd htext (by decide)

end OntoTypes
