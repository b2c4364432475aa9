import OntoTypes.Proofs.Assembly

/-!
# What a hierarchy records

The lists that the hierarchy of some topics keeps about a class, each written down in terms of the
topics: its parents are what its own topics refer to, its children come from the topics that refer
to it, and so on. Which edit was performed when plays no part any more.

Main definitions and results:

* `recordedNode` — what the topics say about the class of an identifier, all in one place;
* `node?_hierarchy_of_classOf` — which is what the hierarchy records about it.
-/

namespace OntoTypes

/-! ## Edits of one value -/

namespace Value

variable {lang : String} {find : String → Option ClassId} {value : Value} {c d : ClassId}

/-- What is picked from the edits of a value is picked from each kind of edit by itself. -/
private theorem filterMap_classEdits (pick : Edit → Option γ) :
    (value.classEdits lang find d).filterMap pick =
      ((value.comment? lang).bind fun text => pick (.describe d text)).toList ++
        ((value.target? find .subClassOf).bind fun p => pick (.link d p)).toList ++
        ((value.target? find .supersededBy).bind fun t => pick (.supersede d t)).toList := by
  -- an edit that is asked for or not, as a list of one item or none
  have hone : ∀ {α : Type} (x : Option α) (edit : α → Edit),
      (x.toList.map edit).filterMap pick = (x.bind fun a => pick (edit a)).toList := by
    intro α x edit
    cases x with
    | none => rfl
    | some a => cases hpick : pick (edit a) <;> simp [hpick]
  rw [classEdits, List.filterMap_append, List.filterMap_append, hone, hone, hone]

/-- A value gives its own class a parent if it refers to one. -/
theorem filterMap_parent?_classEdits :
    (value.classEdits lang find d).filterMap (Edit.parent? c) =
      if d = c then (value.target? find .subClassOf).toList else [] := by
  rw [filterMap_classEdits]
  by_cases h : d = c <;> simp [Edit.parent?, h]

/-- And it gives that parent a child: the lists on both ends of an edge are filled by one edit. -/
theorem filterMap_child?_classEdits :
    (value.classEdits lang find d).filterMap (Edit.child? c) =
      if value.target? find .subClassOf = some c then [d] else [] := by
  rw [filterMap_classEdits]
  cases value.target? find .subClassOf with
  | none => simp [Edit.child?]
  | some p => by_cases h : p = c <;> simp [Edit.child?, h]

/-- What a class is superseded by comes from its own values, as its parents do. -/
theorem filterMap_target?_classEdits :
    (value.classEdits lang find d).filterMap (Edit.target? c) =
      if d = c then (value.target? find .supersededBy).toList else [] := by
  rw [filterMap_classEdits]
  by_cases h : d = c <;> simp [Edit.target?, h]

/-- So do its descriptions, of which the last one stays. -/
theorem filterMap_description?_classEdits :
    (value.classEdits lang find d).filterMap (Edit.description? c) =
      if d = c then (value.comment? lang).toList else [] := by
  rw [filterMap_classEdits]
  by_cases h : d = c <;> simp [Edit.description?, h]

/-- No value of the class pass attaches a property. -/
theorem filterMap_property?_classEdits :
    (value.classEdits lang find d).filterMap (Edit.property? c) = [] := by
  rw [filterMap_classEdits]
  simp [Edit.property?]

/-- Nor does one attach a member. -/
theorem filterMap_member?_classEdits :
    (value.classEdits lang find d).filterMap (Edit.member? c) = [] := by
  rw [filterMap_classEdits]
  simp [Edit.member?]

end Value

/-! ## Edits of one topic -/

namespace Topic

variable {lang : String} {find : String → Option ClassId} {topic : Topic} {c : ClassId}

/-- What is picked from the edits that a topic asks of its own class. -/
private theorem filterMap_classEdits_own {pick : Edit → Option γ} {read : Value → Option γ}
    (hpick : ∀ d (value : Value), (value.classEdits lang find d).filterMap pick =
      if d = c then (read value).toList else []) :
    (topic.classEdits lang find).filterMap pick =
      if find topic.subject.text = some c then topic.values.filterMap read else [] := by
  unfold classEdits
  cases find topic.subject.text with
  | none => simp
  | some d =>
    simp only [List.filterMap_flatMap, hpick, Option.some.injEq]
    by_cases h : d = c
    · simp [h, List.filterMap_eq_flatMap_toList]
    · simp [h]

/-- The parents that a topic gives to the class `c`: those that it refers to, if it is about `c`. -/
theorem filterMap_parent?_classEdits :
    (topic.classEdits lang find).filterMap (Edit.parent? c) =
      if find topic.subject.text = some c then topic.targets find .subClassOf else [] :=
  filterMap_classEdits_own fun _ _ => Value.filterMap_parent?_classEdits

/-- The same for the classes that `c` is superseded by. -/
theorem filterMap_target?_classEdits :
    (topic.classEdits lang find).filterMap (Edit.target? c) =
      if find topic.subject.text = some c then topic.targets find .supersededBy else [] :=
  filterMap_classEdits_own fun _ _ => Value.filterMap_target?_classEdits

/-- The same for the comments. -/
theorem filterMap_description?_classEdits :
    (topic.classEdits lang find).filterMap (Edit.description? c) =
      if find topic.subject.text = some c then topic.comments lang else [] :=
  filterMap_classEdits_own fun _ _ => Value.filterMap_description?_classEdits

/-- A topic makes its own class a child as often as it refers to the parent. -/
theorem filterMap_child?_classEdits :
    (topic.classEdits lang find).filterMap (Edit.child? c) =
      (find topic.subject.text).toList.flatMap
        (List.replicate ((topic.targets find .subClassOf).count c)) := by
  unfold classEdits
  cases find topic.subject.text with
  | none => rfl
  | some d =>
    simp only [List.filterMap_flatMap, Value.filterMap_child?_classEdits, Option.toList_some,
      List.flatMap_singleton, targets]
    -- value by value, each of which names the parent `c` or not
    induction topic.values with
    | nil => rfl
    | cons value values ih =>
      rw [List.flatMap_cons, ih, List.filterMap_cons]
      cases value.target? find .subClassOf with
      | none => simp
      | some p => by_cases h : p = c <;> simp [h, List.replicate_succ]

/-- What topics say about classes attaches neither properties nor members. -/
theorem filterMap_property?_classEdits :
    (topic.classEdits lang find).filterMap (Edit.property? c) = [] := by
  unfold classEdits
  cases find topic.subject.text <;>
    simp [List.filterMap_flatMap, Value.filterMap_property?_classEdits]

theorem filterMap_member?_classEdits :
    (topic.classEdits lang find).filterMap (Edit.member? c) = [] := by
  unfold classEdits
  cases find topic.subject.text <;>
    simp [List.filterMap_flatMap, Value.filterMap_member?_classEdits]

/-- A property is attached to a class once for each time that its topic names the class as an owner.
-/
theorem filterMap_property?_propertyEdits {id : PropertyId} :
    (topic.propertyEdits find id).filterMap (Edit.property? c) =
      List.replicate ((topic.targets find .domainIncludes).count c) id := by
  unfold propertyEdits
  induction topic.targets find .domainIncludes with
  | nil => rfl
  | cons owner owners ih =>
    rw [List.map_cons, List.filterMap_cons, ih]
    by_cases h : owner = c <;> simp [Edit.property?, h, List.replicate_succ]

/-- The class that a topic is a member of. -/
def memberOf? (find : String → Option ClassId) (topic : Topic) : Option ClassId :=
  topic.memberTag?.bind fun tag => find tag.text

/-- A topic becomes a member of one class at most. -/
theorem filterMap_member?_memberEdits :
    (topic.memberEdits lang find).filterMap (Edit.member? c) =
      if topic.memberOf? find = some c then [topic.memberNode lang] else [] := by
  unfold memberEdits memberOf?
  cases topic.memberTag?.bind fun tag => find tag.text with
  | none => rfl
  | some owner => by_cases h : owner = c <;> simp [Edit.member?, h]

end Topic

/-! ## All edits -/

variable {settings : Settings} {topics : List Topic}

/-- The topics that describe the class of an identifier. There is none for a builtin data type. -/
def topicsAbout (settings : Settings) (topics : List Topic) (identifier : String) : List Topic :=
  (classTopics settings.namespaceIri topics).filter (·.subject.text = identifier)

/-- The children of a class: each class as often as its topic refers to the parent. -/
def recordedChildren (settings : Settings) (topics : List Topic) (c : ClassId) : List ClassId :=
  (classTopics settings.namespaceIri topics).flatMap fun topic =>
    (classOf settings topics topic.subject.text).toList.flatMap
      (List.replicate ((topic.targets (classOf settings topics) .subClassOf).count c))

/-- The properties of a class: each property as often as its topic refers to the class. -/
def recordedProperties (settings : Settings) (topics : List Topic) (c : ClassId) :
    List PropertyId :=
  (topics.filter Topic.isProperty).zipIdx.flatMap fun (topic, id) =>
    List.replicate ((topic.targets (classOf settings topics) .domainIncludes).count c) id

/-- The members of the enumeration of a class. -/
def recordedMembers (settings : Settings) (topics : List Topic) (c : ClassId) :
    List MemberNode :=
  (topics.filter fun topic => topic.memberOf? (classOf settings topics) = some c).map
    (Topic.memberNode settings.lang)

/-- What the topics say about the class `c` of an identifier. -/
def recordedNode (settings : Settings) (topics : List Topic) (identifier : String) (c : ClassId) :
    ClassNode :=
  { subject := .iri identifier
    primitive := (declaredNode settings.namespaceIri identifier).primitive
    description :=
      ((topicsAbout settings topics identifier).flatMap (Topic.comments settings.lang)).getLast?
    parents :=
      (topicsAbout settings topics identifier).flatMap
        (Topic.targets (classOf settings topics) .subClassOf)
    children := recordedChildren settings topics c
    properties := recordedProperties settings topics c
    members := recordedMembers settings topics c
    supersededBy :=
      (topicsAbout settings topics identifier).flatMap
        (Topic.targets (classOf settings topics) .supersededBy) }

/-- What is picked from one pass only. -/
private theorem filterMap_edits (pick : Edit → Option γ) :
    (edits settings topics).filterMap pick =
      (classTopics settings.namespaceIri topics).flatMap (fun topic =>
        (topic.classEdits settings.lang (classOf settings topics)).filterMap pick) ++
      (topics.filter Topic.isProperty).zipIdx.flatMap (fun (topic, id) =>
        (topic.propertyEdits (classOf settings topics) id).filterMap pick) ++
      topics.flatMap fun topic =>
        (topic.memberEdits settings.lang (classOf settings topics)).filterMap pick := by
  simp only [edits, classEdits, propertyEdits, memberEdits, List.filterMap_append,
    List.filterMap_flatMap]

/-- Only an edit of a class is picked from the class pass. -/
private theorem filterMap_edits_class {pick : Edit → Option γ}
    (hproperty : ∀ id owner, pick (.attachProperty id owner) = none)
    (hmember : ∀ member owner, pick (.attachMember member owner) = none) :
    (edits settings topics).filterMap pick = (classEdits settings topics).filterMap pick := by
  -- the other two passes ask only for edits from which nothing is picked
  have hproperties : ∀ (topic : Topic) (id : PropertyId),
      (topic.propertyEdits (classOf settings topics) id).filterMap pick = [] := by
    intro topic id
    simp [Topic.propertyEdits, hproperty]
  have hmembers : ∀ topic : Topic,
      (topic.memberEdits settings.lang (classOf settings topics)).filterMap pick = [] := by
    intro topic
    unfold Topic.memberEdits
    cases topic.memberTag?.bind fun tag => classOf settings topics tag.text <;> simp [hmember]
  rw [filterMap_edits, classEdits, List.filterMap_flatMap]
  simp [hproperties, hmembers]

section

variable {identifier : String} {c : ClassId}

/-- What a topic asks of its own class alone is picked from the topics about that class. -/
private theorem filterMap_classEdits_about (hc : classOf settings topics identifier = some c)
    {pick : Edit → Option γ} {read : Topic → List γ}
    (hown : ∀ topic : Topic,
      (topic.classEdits settings.lang (classOf settings topics)).filterMap pick =
        if classOf settings topics topic.subject.text = some c then read topic else []) :
    (classEdits settings topics).filterMap pick =
      (topicsAbout settings topics identifier).flatMap read := by
  -- an identifier has one class, and a class one identifier
  have hiff : ∀ topic : Topic, classOf settings topics topic.subject.text = some c ↔
      topic.subject.text = identifier :=
    fun topic => ⟨fun h => Registry.classOf_inj h hc, fun h => by rw [h, hc]⟩
  rw [classEdits, List.filterMap_flatMap]
  simp only [hown, hiff, topicsAbout, flatMap_ite]

/-- The parents of the class of an identifier come from the topics about it, in their order. -/
theorem filterMap_parent?_classEdits (hc : classOf settings topics identifier = some c) :
    (classEdits settings topics).filterMap (Edit.parent? c) =
      (topicsAbout settings topics identifier).flatMap
        (Topic.targets (classOf settings topics) .subClassOf) :=
  filterMap_classEdits_about hc fun _ => Topic.filterMap_parent?_classEdits

/-- The classes that supersede it come from there, too. -/
theorem filterMap_target?_classEdits (hc : classOf settings topics identifier = some c) :
    (classEdits settings topics).filterMap (Edit.target? c) =
      (topicsAbout settings topics identifier).flatMap
        (Topic.targets (classOf settings topics) .supersededBy) :=
  filterMap_classEdits_about hc fun _ => Topic.filterMap_target?_classEdits

/-- And so does all that it is described by. -/
theorem filterMap_description?_classEdits (hc : classOf settings topics identifier = some c) :
    (classEdits settings topics).filterMap (Edit.description? c) =
      (topicsAbout settings topics identifier).flatMap (Topic.comments settings.lang) :=
  filterMap_classEdits_about hc fun _ => Topic.filterMap_description?_classEdits

/-- Unlike what else is recorded about a class, its children come from the topics of other
classes. -/
theorem filterMap_child?_classEdits (c : ClassId) :
    (classEdits settings topics).filterMap (Edit.child? c) =
      recordedChildren settings topics c := by
  rw [classEdits, List.filterMap_flatMap, recordedChildren]
  simp only [Topic.filterMap_child?_classEdits]

end

/-- Properties are attached by the topics about properties. -/
theorem filterMap_property?_edits (c : ClassId) :
    (edits settings topics).filterMap (Edit.property? c) =
      recordedProperties settings topics c := by
  -- of the three passes, the first and the last attach no property
  have hmembers : ∀ topic ∈ topics, (topic.memberEdits settings.lang
      (classOf settings topics)).filterMap (Edit.property? c) = [] := by
    intro topic _
    unfold Topic.memberEdits
    cases topic.memberTag?.bind fun tag => classOf settings topics tag.text <;>
      simp [Edit.property?]
  rw [filterMap_edits, recordedProperties,
    List.flatMap_eq_nil_iff.mpr fun _ _ => Topic.filterMap_property?_classEdits,
    List.flatMap_eq_nil_iff.mpr hmembers]
  simp only [Topic.filterMap_property?_propertyEdits, List.nil_append, List.append_nil]

/-- Members are attached by the topics that are members. -/
theorem filterMap_member?_edits (c : ClassId) :
    (edits settings topics).filterMap (Edit.member? c) = recordedMembers settings topics c := by
  -- of the three passes, the first two attach no member
  have hproperties : ∀ entry ∈ (topics.filter Topic.isProperty).zipIdx, (entry.1.propertyEdits
      (classOf settings topics) entry.2).filterMap (Edit.member? c) = [] := by
    intro entry _
    simp [Topic.propertyEdits, Edit.member?]
  rw [filterMap_edits, recordedMembers,
    List.flatMap_eq_nil_iff.mpr fun _ _ => Topic.filterMap_member?_classEdits,
    List.flatMap_eq_nil_iff.mpr hproperties]
  simp only [Topic.filterMap_member?_memberEdits, flatMap_ite, List.nil_append]
  rw [List.map_eq_flatMap]

/-- A class is declared under its identifier, be it a builtin data type or not. -/
theorem declaredNode_subject (namespaceIri identifier : String) :
    (declaredNode namespaceIri identifier).subject = .iri identifier := by
  unfold declaredNode
  split
  · rename_i primitive hfind
    have htext := List.find?_some hfind
    rw [builtinNode, of_decide_eq_true htext]
  · rfl

/-- Without edits a class is recorded as it was declared. -/
theorem declaredNode_eq (namespaceIri identifier : String) :
    declaredNode namespaceIri identifier =
      { subject := .iri identifier,
        primitive := (declaredNode namespaceIri identifier).primitive } := by
  rw [← declaredNode_subject namespaceIri identifier]
  unfold declaredNode
  split <;> rfl

/-- What the class pass leaves behind about a class. -/
theorem node?_performAll_classEdits
    (hn : ∀ topic ∈ classTopics settings.namespaceIri topics, IsNameable topic.subject)
    {identifier : String} {c : ClassId} (hc : classOf settings topics identifier = some c) :
    (Edit.performAll (.declared settings.namespaceIri topics)
        (classEdits settings topics)).node? c =
      some { recordedNode settings topics identifier c with properties := [], members := [] } := by
  -- the class pass comes before anything is attached
  have hproperties : (classEdits settings topics).filterMap (Edit.property? c) = [] := by
    rw [classEdits, List.filterMap_flatMap]
    exact List.flatMap_eq_nil_iff.mpr fun _ _ => Topic.filterMap_property?_classEdits
  have hmembers : (classEdits settings topics).filterMap (Edit.member? c) = [] := by
    rw [classEdits, List.filterMap_flatMap]
    exact List.flatMap_eq_nil_iff.mpr fun _ _ => Topic.filterMap_member?_classEdits
  -- a class is declared with nothing recorded, so the edits account for all of it
  rw [Edit.node?_performAll, Registry.node?_declared hn hc, declaredNode_eq, Option.map_some,
    ClassNode.edited, filterMap_parent?_classEdits hc, filterMap_target?_classEdits hc,
    filterMap_description?_classEdits hc, filterMap_child?_classEdits, hproperties, hmembers]
  simp [recordedNode]

/-- **The hierarchy records about a class what the topics say about it.** Nothing is asked of the
topics beyond being admissible: a topic may come twice, name a parent twice or be about a builtin
data type. The lists are in the order in which the topics and their values come. -/
theorem node?_hierarchy_of_classOf (h : Admissible settings topics) {identifier : String}
    {c : ClassId} (hc : classOf settings topics identifier = some c) :
    (hierarchy settings topics).node? c = some (recordedNode settings topics identifier c) := by
  have hnode : (hierarchy settings topics).node? c =
      ((Registry.declared settings.namespaceIri topics).node? c).map
        (ClassNode.edited c (edits settings topics)) := Edit.node?_performAll ..
  -- four of the lists are filled by the class pass alone, so that what is known of it can be used
  -- for all the edits
  have hparents : (edits settings topics).filterMap (Edit.parent? c) = _ :=
    (filterMap_edits_class (fun _ _ => rfl) fun _ _ => rfl).trans (filterMap_parent?_classEdits hc)
  have hsuperseding : (edits settings topics).filterMap (Edit.target? c) = _ :=
    (filterMap_edits_class (fun _ _ => rfl) fun _ _ => rfl).trans (filterMap_target?_classEdits hc)
  have hdescription : (edits settings topics).filterMap (Edit.description? c) = _ :=
    (filterMap_edits_class (fun _ _ => rfl) fun _ _ => rfl).trans
      (filterMap_description?_classEdits hc)
  have hchildren : (edits settings topics).filterMap (Edit.child? c) = _ :=
    (filterMap_edits_class (fun _ _ => rfl) fun _ _ => rfl).trans (filterMap_child?_classEdits c)
  rw [hnode, Registry.node?_declared h.nameable hc, declaredNode_eq, Option.map_some,
    ClassNode.edited, hparents, hsuperseding, hdescription, hchildren, filterMap_property?_edits,
    filterMap_member?_edits]
  simp [recordedNode]

end OntoTypes
