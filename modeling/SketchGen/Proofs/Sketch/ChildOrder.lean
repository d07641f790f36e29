import SketchGen.Proofs.Query.Descendants
import SketchGen.Proofs.Traversal
import SketchGen.Sketch.Program

namespace SketchGen.Sketch

open SketchGen.Json SketchGen.Xml SketchGen.Xml.Query SketchGen.Text

/-! The order of a component's children of different tags. The generator reads a component
through its own attributes, through its children of one tag at a time, and through queries
`.//tag[@key='value']` built around the ids, sources and targets of its children. Below a
component whose children have no children, each such query selects children of one tag: for a
named tag, by its name; for `*`, by an id, which children of one tag carry. So moving children
of different tags past each other, keeping the order of each tag's children, leaves every
section of the sketch as it was, and every fault. A single quote in a spliced value ends its
literal early and lets the rest of the value steer the query; such values are left out. -/

/-- Two lists of children with the same children of every tag, in the same order: one is the
other with children of different tags moved past each other. -/
def SameTagOrder (cs ds : List Element) : Prop :=
  ∀ tag, cs.filter (·.tag == tag) = ds.filter (·.tag == tag)

def splicedKeys : List String := ["id", "source", "target"]

/-- What the generator needs of a component for the order of its children of different tags
not to matter: the children have no children, children of different tags carry different ids,
and no spliced value holds a single quote. -/
structure Reorderable (cpc : Element) : Prop where
  flat : cpc.Flat
  idsByTag : ∀ x ∈ cpc.children, ∀ y ∈ cpc.children,
    (x.get? "id").isSome → x.get? "id" = y.get? "id" → x.tag = y.tag
  quoteless : ∀ x ∈ cpc.children, ∀ key ∈ splicedKeys, ∀ v ∈ x.get? key, '\'' ∉ v.toList

/-! ### Children of one tag -/

theorem SameTagOrder.mem {cs ds : List Element} (same : SameTagOrder cs ds) {x : Element}
    (member : x ∈ cs) : x ∈ ds := by
  have kept : x ∈ cs.filter (·.tag == x.tag) := List.mem_filter.mpr ⟨member, by simp⟩
  rw [same x.tag] at kept
  exact (List.mem_filter.mp kept).1

theorem SameTagOrder.filter_eq {cs ds : List Element} (same : SameTagOrder cs ds)
    {p : Element → Bool}
    (oneTag : ∀ x ∈ ds, ∀ y ∈ ds, p x = true → p y = true → x.tag = y.tag) :
    cs.filter p = ds.filter p := by
  by_cases selected : ∃ x ∈ ds, p x = true
  · obtain ⟨x, member, chosen⟩ := selected
    -- every kept child has the tag of `x`, so the filter reads the children of that tag only
    have narrow : ∀ l : List Element, (∀ y ∈ l, y ∈ ds) →
        l.filter p = (l.filter (·.tag == x.tag)).filter p := by
      intro l within
      rw [List.filter_filter]
      apply List.filter_congr
      intro y member'
      cases kept : p y with
      | false => simp
      | true => simp [oneTag y (within y member') x member kept chosen]
    rw [narrow cs fun y member' => same.mem member', narrow ds fun y member' => member', same x.tag]
  · simp only [not_exists, not_and, Bool.not_eq_true] at selected
    have none : ∀ l : List Element, (∀ y ∈ l, y ∈ ds) → l.filter p = [] := fun l within =>
      List.filter_eq_nil_iff.mpr fun y member => by simp [selected y (within y member)]
    rw [none cs fun y member => same.mem member, none ds fun y member => member]

theorem SameTagOrder.swap {a b : Element} (differ : a.tag ≠ b.tag) (pre rest : List Element) :
    SameTagOrder (pre ++ b :: a :: rest) (pre ++ a :: b :: rest) := by
  intro tag
  simp only [List.filter_append, List.filter_cons]
  by_cases first : a.tag = tag <;> by_cases second : b.tag = tag
  · exact absurd (first.trans second.symm) differ
  all_goals simp [first, second]

theorem mem_children_of_mem_childrenTagged {e x : Element} {tag : String}
    (member : x ∈ e.childrenTagged tag) : x ∈ e.children :=
  (List.mem_filter.mp member).1

section Reordered

variable {cpc : Element} {cs : List Element}

theorem childrenTagged_reorder (same : SameTagOrder cs cpc.children) :
    ({cpc with children := cs} : Element).childrenTagged = cpc.childrenTagged :=
  funext same

/-! ### Queries -/

theorem Reorderable.flat_reorder (ok : Reorderable cpc) (same : SameTagOrder cs cpc.children) :
    ({cpc with children := cs} : Element).Flat :=
  fun c member => ok.flat c (same.mem member)

/-- A query that selects children of one tag selects the same children in the same order,
whatever the order of the children of different tags. -/
theorem Reorderable.findAll_reorder (ok : Reorderable cpc) (same : SameTagOrder cs cpc.children)
    {tag : String} {conditions : List (String × String)} (tagPlain : tag = "*" ∨ PlainName tag)
    (readable : Readable conditions)
    (oneTag : ∀ x ∈ cpc.children, ∀ y ∈ cpc.children,
      selects tag conditions x → selects tag conditions y → x.tag = y.tag) :
    ({cpc with children := cs} : Element).findAll (descendantPath tag conditions) =
      cpc.findAll (descendantPath tag conditions) := by
  rw [findAll_descendantPath_of_flat tagPlain readable (ok.flat_reorder same),
    findAll_descendantPath_of_flat tagPlain readable ok.flat]
  exact congrArg _ (same.filter_eq oneTag)

theorem Reorderable.findIn_reorder (ok : Reorderable cpc) (same : SameTagOrder cs cpc.children)
    {tag : String} {conditions : List (String × String)} (tagPlain : tag = "*" ∨ PlainName tag)
    (readable : Readable conditions)
    (oneTag : ∀ x ∈ cpc.children, ∀ y ∈ cpc.children,
      selects tag conditions x → selects tag conditions y → x.tag = y.tag) :
    findIn {cpc with children := cs} (descendantPath tag conditions) =
      findIn cpc (descendantPath tag conditions) := by
  simp only [findIn, ok.findAll_reorder same tagPlain readable oneTag]

theorem Reorderable.findAllIn_reorder (ok : Reorderable cpc) (same : SameTagOrder cs cpc.children)
    {tag : String} {conditions : List (String × String)} (tagPlain : tag = "*" ∨ PlainName tag)
    (readable : Readable conditions)
    (oneTag : ∀ x ∈ cpc.children, ∀ y ∈ cpc.children,
      selects tag conditions x → selects tag conditions y → x.tag = y.tag) :
    findAllIn {cpc with children := cs} (descendantPath tag conditions) =
      findAllIn cpc (descendantPath tag conditions) := by
  simp only [findAllIn, ok.findAll_reorder same tagPlain readable oneTag]

theorem oneTag_of_literal {tag : String} (literal : LiteralTag tag)
    (conditions : List (String × String)) (l : List Element) :
    ∀ x ∈ l, ∀ y ∈ l, selects tag conditions x → selects tag conditions y → x.tag = y.tag :=
  fun _ _ _ _ first second => (tag_of_selects literal first).trans (tag_of_selects literal second).symm

theorem relationTags_literal :
    LiteralTag "relation" ∧ LiteralTag "commRelation" ∧ LiteralTag "hw_resource" := by
  -- `String.endsWith` does not reduce in the elaborator: the kernel decides all three at once
  decide +kernel

theorem Reorderable.oneTag_of_id (ok : Reorderable cpc) (v : String) :
    ∀ x ∈ cpc.children, ∀ y ∈ cpc.children,
      selects "*" [("id", v)] x → selects "*" [("id", v)] y → x.tag = y.tag := by
  intro x first y second selectedFirst selectedSecond
  rw [selects_any_id, beq_iff_eq] at selectedFirst selectedSecond
  exact ok.idsByTag x first y second (by simp [selectedFirst])
    (selectedFirst.trans selectedSecond.symm)

theorem findIn_of_flat {e : Element} (flat : e.Flat) {tag : String}
    {conditions : List (String × String)} (tagPlain : tag = "*" ∨ PlainName tag)
    (readable : Readable conditions) :
    findIn e (descendantPath tag conditions) = .ok (e.children.filter (selects tag conditions)).head? := by
  simp only [findIn, findAll_descendantPath_of_flat tagPlain readable flat]

theorem findAllIn_of_flat {e : Element} (flat : e.Flat) {tag : String}
    {conditions : List (String × String)} (tagPlain : tag = "*" ∨ PlainName tag)
    (readable : Readable conditions) :
    findAllIn e (descendantPath tag conditions) = .ok (e.children.filter (selects tag conditions)) := by
  simp only [findAllIn, findAll_descendantPath_of_flat tagPlain readable flat]

theorem readable_single {key value : String} (plain : PlainName key) (free : '\'' ∉ value.toList) :
    Readable [(key, value)] := by
  simpa [Readable] using ⟨plain, free⟩

theorem shown_quoteless {x : Element} {key : String}
    (free : ∀ v ∈ x.get? key, '\'' ∉ v.toList) : '\'' ∉ (shown x key).toList := by
  unfold shown
  cases found : x.get? key with
  | none => decide
  | some v => exact free v found

theorem relationPath_eq (near v : String) :
    ".//commRelation[@" ++ near ++ "='" ++ v ++ "']" = descendantPath "commRelation" [(near, v)] := by
  simp [descendantPath, conditionText, ← String.toList_inj]

theorem idPath_eq (v : String) : ".//*[@id='" ++ v ++ "']" = descendantPath "*" [("id", v)] := by
  simp [descendantPath, conditionText, ← String.toList_inj]

theorem hardwarePath_eq (v : String) :
    ".//hw_resource[@id='" ++ v ++ "']" = descendantPath "hw_resource" [("id", v)] := by
  simp [descendantPath, conditionText, ← String.toList_inj]

theorem targetPath_eq (v : String) :
    ".//relation[@target='" ++ v ++ "']" = descendantPath "relation" [("target", v)] := by
  simp [descendantPath, conditionText, ← String.toList_inj]

theorem usePath_eq (source target : String) :
    ".//relation[@source='" ++ source ++ "'][@target='" ++ target ++ "']" =
      descendantPath "relation" [("source", source), ("target", target)] := by
  simp [descendantPath, conditionText, ← String.toList_inj]

/-! ### Sections read through the children of one tag -/

theorem sentTopicOf_reorder (systemId : String) :
    sentTopicOf systemId {cpc with children := cs} = sentTopicOf systemId cpc := rfl

theorem clientOf_reorder : clientOf {cpc with children := cs} = clientOf cpc := rfl

theorem shown_reorder : shown {cpc with children := cs} = shown cpc := rfl

theorem topicsOf_reorder (same : SameTagOrder cs cpc.children) (systemId : String) :
    topicsOf systemId {cpc with children := cs} = topicsOf systemId cpc := by
  unfold topicsOf publishers subscribers
  rw [childrenTagged_reorder same, sentTopicOf_reorder]

theorem clientsOf_reorder (same : SameTagOrder cs cpc.children) :
    clientsOf {cpc with children := cs} = clientsOf cpc := by
  unfold clientsOf publishers subscribers
  rw [childrenTagged_reorder same, clientOf_reorder]

theorem outputVariablesOf_reorder (same : SameTagOrder cs cpc.children) :
    outputVariablesOf {cpc with children := cs} = outputVariablesOf cpc := by
  unfold outputVariablesOf
  rw [childrenTagged_reorder same]

theorem modeDeclsOf_reorder (same : SameTagOrder cs cpc.children) :
    modeDeclsOf {cpc with children := cs} = modeDeclsOf cpc := by
  unfold modeDeclsOf
  rw [childrenTagged_reorder same]

theorem structDeclsOf_reorder (same : SameTagOrder cs cpc.children) :
    structDeclsOf {cpc with children := cs} = structDeclsOf cpc := by
  unfold structDeclsOf
  rw [childrenTagged_reorder same]

theorem connectionsOf_reorder (same : SameTagOrder cs cpc.children) :
    connectionsOf {cpc with children := cs} = connectionsOf cpc := by
  unfold connectionsOf publishers subscribers
  rw [childrenTagged_reorder same]

theorem callbacksOf_reorder (same : SameTagOrder cs cpc.children) :
    callbacksOf {cpc with children := cs} = callbacksOf cpc := by
  unfold callbacksOf subscribers
  rw [childrenTagged_reorder same]

theorem dependencyOf_reorder (same : SameTagOrder cs cpc.children) :
    dependencyOf {cpc with children := cs} = dependencyOf cpc := by
  funext relation
  unfold dependencyOf tasks
  rw [childrenTagged_reorder same]

theorem taskBodyOf_reorder (same : SameTagOrder cs cpc.children) :
    taskBodyOf {cpc with children := cs} = taskBodyOf cpc := by
  funext thread
  unfold taskBodyOf dependenciesOf relationsTo
  rw [childrenTagged_reorder same, dependencyOf_reorder same]

theorem taskBodiesOf_reorder (same : SameTagOrder cs cpc.children) (threads : List Element) :
    taskBodiesOf threads {cpc with children := cs} = taskBodiesOf threads cpc := by
  unfold taskBodiesOf
  rw [taskBodyOf_reorder same]

/-! ### Sections that query the component -/

theorem partnerOf_reorder (ok : Reorderable cpc) (same : SameTagOrder cs cpc.children)
    {id : Option String} (quoted : ∀ v ∈ id, '\'' ∉ v.toList) {near far : String}
    (nearPlain : PlainName near) (farKey : far ∈ splicedKeys) :
    partnerOf {cpc with children := cs} id near far = partnerOf cpc id near far := by
  cases id with
  | none => rfl
  | some v =>
    have relationPlain : PlainName "commRelation" := by decide
    have relationLiteral : LiteralTag "commRelation" := relationTags_literal.2.1
    have readable := readable_single nearPlain (quoted v rfl)
    simp only [partnerOf, around, bind, Except.bind]
    rw [relationPath_eq, ok.findIn_reorder same (.inr relationPlain) readable
        (oneTag_of_literal relationLiteral _ _),
      findIn_of_flat ok.flat (.inr relationPlain) readable]
    -- the relation found is a child, so its far end is spliced safely as well
    cases found : (cpc.children.filter (selects "commRelation" [(near, v)])).head? with
    | none => rfl
    | some relation =>
      have member : relation ∈ cpc.children := (List.mem_filter.mp (List.mem_of_mem_head? found)).1
      cases farEnd : relation.get? far with
      | none => simp only [attrOfFound, farEnd]
      | some w =>
        have idPlain : PlainName "id" := by decide
        have readable' := readable_single idPlain (ok.quoteless relation member far farKey w farEnd)
        simp only [attrOfFound, farEnd, idPath_eq,
          ok.findIn_reorder same (.inl rfl) readable' (ok.oneTag_of_id w)]

theorem threadNotes_reorder (ok : Reorderable cpc) (same : SameTagOrder cs cpc.children)
    {role : ThreadRole} (nearPlain : PlainName role.near) (farKey : role.far ∈ splicedKeys)
    {thread : Element} (member : thread ∈ cpc.children) :
    threadNotes role thread {cpc with children := cs} = threadNotes role thread cpc := by
  unfold threadNotes
  rw [partnerOf_reorder ok same (ok.quoteless thread member "id" (by decide)) nearPlain farKey]

theorem publishTasksOf_reorder (ok : Reorderable cpc) (same : SameTagOrder cs cpc.children) :
    publishTasksOf {cpc with children := cs} = publishTasksOf cpc := by
  unfold publishTasksOf publishers
  rw [childrenTagged_reorder same]
  apply Gen.mapM_congr
  intro publisher member
  unfold publishTaskOf
  rw [threadNotes_reorder ok same (by decide) (by decide)
    (mem_children_of_mem_childrenTagged member)]

theorem receiveTasksOf_reorder (ok : Reorderable cpc) (same : SameTagOrder cs cpc.children) :
    receiveTasksOf {cpc with children := cs} = receiveTasksOf cpc := by
  unfold receiveTasksOf subscribers
  rw [childrenTagged_reorder same]
  apply Gen.mapM_congr
  intro subscriber member
  unfold receiveTaskOf
  rw [threadNotes_reorder ok same (by decide) (by decide)
    (mem_children_of_mem_childrenTagged member)]

theorem hardwareNote_reorder (ok : Reorderable cpc) (same : SameTagOrder cs cpc.children)
    {id : Option String} (quoted : ∀ v ∈ id, '\'' ∉ v.toList) :
    hardwareNote {cpc with children := cs} id = hardwareNote cpc id := by
  cases id with
  | none => rfl
  | some v =>
    have hardwarePlain : PlainName "hw_resource" := by decide
    have hardwareLiteral : LiteralTag "hw_resource" := relationTags_literal.2.2
    have idPlain : PlainName "id" := by decide
    have readable := readable_single idPlain (quoted v rfl)
    simp only [hardwareNote, around, bind, Except.bind]
    rw [hardwarePath_eq, ok.findIn_reorder same (.inr hardwarePlain) readable
      (oneTag_of_literal hardwareLiteral _ _)]

theorem hardwareNotes_reorder (ok : Reorderable cpc) (same : SameTagOrder cs cpc.children)
    {routine : Element} (member : routine ∈ cpc.children) :
    hardwareNotes routine {cpc with children := cs} = hardwareNotes routine cpc := by
  cases routineId : routine.get? "id" with
  | none => simp only [hardwareNotes, around, routineId]; rfl
  | some v =>
    have relationPlain : PlainName "relation" := by decide
    have relationLiteral : LiteralTag "relation" := relationTags_literal.1
    have targetPlain : PlainName "target" := by decide
    have readable := readable_single targetPlain
      (ok.quoteless routine member "id" (by decide) v routineId)
    simp only [hardwareNotes, around, routineId, bind, Except.bind]
    rw [targetPath_eq, ok.findAllIn_reorder same (.inr relationPlain) readable
        (oneTag_of_literal relationLiteral _ _),
      findAllIn_of_flat ok.flat (.inr relationPlain) readable]
    -- each relation found is a child, so its source is spliced safely as well
    dsimp only
    rw [Gen.mapM_congr fun r found => hardwareNote_reorder ok same
      (ok.quoteless r (List.mem_filter.mp found).1 "source" (by decide))]

theorem usesResource_reorder (ok : Reorderable cpc) (same : SameTagOrder cs cpc.children)
    {routineId : String} (routineFree : '\'' ∉ routineId.toList) {resource : Element}
    (member : resource ∈ cpc.children) :
    usesResource {cpc with children := cs} routineId resource = usesResource cpc routineId resource := by
  have relationPlain : PlainName "relation" := by decide
  have relationLiteral : LiteralTag "relation" := relationTags_literal.1
  have readable : Readable [("source", shown resource "id"), ("target", routineId)] := by
    intro c listed
    simp only [List.mem_cons, List.mem_nil_iff, or_false] at listed
    rcases listed with rfl | rfl
    · exact ⟨(by decide : PlainName "source"),
        shown_quoteless (ok.quoteless resource member "id" (by decide))⟩
    · exact ⟨(by decide : PlainName "target"), routineFree⟩
  unfold usesResource
  dsimp only
  rw [usePath_eq, ok.findAllIn_reorder same (.inr relationPlain) readable
    (oneTag_of_literal relationLiteral _ _)]

theorem routineOf_reorder (ok : Reorderable cpc) (same : SameTagOrder cs cpc.children)
    {routine : Element} (member : routine ∈ cpc.children) :
    routineOf routine {cpc with children := cs} = routineOf routine cpc := by
  have resources : (cpc.childrenTagged "sw_resource").filterM
        (usesResource {cpc with children := cs} (shown routine "id")) =
      (cpc.childrenTagged "sw_resource").filterM (usesResource cpc (shown routine "id")) :=
    Gen.filterM_congr fun resource found => usesResource_reorder ok same
      (shown_quoteless (ok.quoteless routine member "id" (by decide)))
      (mem_children_of_mem_childrenTagged found)
  unfold routineOf
  dsimp only
  rw [hardwareNotes_reorder ok same member, childrenTagged_reorder same, resources]

/-! ### The sketch -/

/-- Below a component whose children have no children, children of different tags carry
different ids and no spliced value holds a single quote, moving children of different tags
past each other gives the same sketch, or the same fault. -/
theorem sketchOf_reorder (ok : Reorderable cpc) (same : SameTagOrder cs cpc.children)
    (systemId : String) :
    sketchOf systemId {cpc with children := cs} = sketchOf systemId cpc := by
  have routines : (cpc.childrenTagged "function").mapM (routineOf · {cpc with children := cs}) =
      (cpc.childrenTagged "function").mapM (routineOf · cpc) :=
    Gen.mapM_congr fun routine member =>
      routineOf_reorder ok same (mem_children_of_mem_childrenTagged member)
  unfold sketchOf tasks publishers subscribers
  dsimp only
  rw [topicsOf_reorder same, clientsOf_reorder same, outputVariablesOf_reorder same,
    modeDeclsOf_reorder same, structDeclsOf_reorder same, connectionsOf_reorder same,
    callbacksOf_reorder same, publishTasksOf_reorder ok same, receiveTasksOf_reorder ok same,
    taskBodiesOf_reorder same, shown_reorder, childrenTagged_reorder same, routines]

end Reordered

def pacingTask : Element :=
  ⟨1, "thread", [("id", "t1"), ("name", "Pace"), ("qualification_array", "[]"),
    ("contribution_array", "[]")], "", [], ""⟩

def pacingRoutine : Element :=
  ⟨2, "function", [("id", "f1"), ("name", "Step"), ("input_parameters", "[]"),
    ("output_parameters", "[]"), ("qualification_array", "[]"), ("contribution_array", "[]")],
    "", [], ""⟩

def pacingRelation : Element := ⟨3, "relation", [("source", "f1"), ("target", "t1")], "", [], ""⟩

def pacedComponent : Element :=
  ⟨0, "cpc", [("id", "c1"), ("name", "Unit")], "", [pacingTask, pacingRoutine, pacingRelation], ""⟩

theorem pacedComponent_routine_first :
    sketchOf "sys" {pacedComponent with children := [pacingRoutine, pacingTask, pacingRelation]} =
      sketchOf "sys" pacedComponent :=
  sketchOf_reorder ⟨by decide +kernel, by decide +kernel, by decide +kernel⟩
    (SameTagOrder.swap (by decide +kernel) [] [pacingRelation]) "sys"

def namedTask : Element :=
  ⟨1, "thread", [("id", "t1"), ("name", "N"), ("source", "t1"), ("qualification_array", "[]"),
    ("contribution_array", "[]")], "", [], ""⟩

def namedRoutine : Element :=
  ⟨2, "function", [("id", "f1"), ("name", "N"), ("source", "f1"), ("input_parameters", "[]"),
    ("output_parameters", "[]"), ("qualification_array", "[]"), ("contribution_array", "[]")],
    "", [], ""⟩

def quotedPublisher : Element :=
  ⟨3, "commThread", [("id", "p']/../*[@name='N"), ("name", "Pub"), ("data_structure", "[]")],
    "", [], ""⟩

def strayRelation : Element := ⟨4, "commRelation", [("source", "x"), ("target", "p")], "", [], ""⟩

/-- A component whose publisher's id holds single quotes: spliced into the query for its
relation, the id ends the literal at its first quote and goes on as `/../*[@name='N']`, which
selects the first child named `N`, here a task or a routine by the order of the two. -/
def quotedComponent : Element :=
  ⟨0, "cpc", [("id", "c1"), ("name", "Unit")], "",
    [namedTask, namedRoutine, quotedPublisher, strayRelation], ""⟩

theorem map_tag_of_check {x : Gen Element} {tag : String}
    (check : (match x with
      | .ok found => found.tag == tag
      | .error _ => false) = true) :
    x.map (·.tag) = .ok tag := by
  cases x with
  | error e => simp at check
  | ok found =>
    simp only [beq_iff_eq] at check
    simp [Except.map, check]

/-- With the quotes, the publisher's notes look up the element its relation leads from by the
first child named `N`: the task in one order and the routine in the other, though the two
orders differ only between children of different tags. -/
theorem quotedComponent_order_matters :
    quotedComponent.Flat ∧
    (∀ x ∈ quotedComponent.children, ∀ y ∈ quotedComponent.children,
      (x.get? "id").isSome → x.get? "id" = y.get? "id" → x.tag = y.tag) ∧
    SameTagOrder [namedRoutine, namedTask, quotedPublisher, strayRelation]
      quotedComponent.children ∧
    (partnerOf quotedComponent (quotedPublisher.get? "id") ThreadRole.publisher.near
      ThreadRole.publisher.far).map (·.tag) = .ok "thread" ∧
    (partnerOf {quotedComponent with
        children := [namedRoutine, namedTask, quotedPublisher, strayRelation]}
      (quotedPublisher.get? "id") ThreadRole.publisher.near ThreadRole.publisher.far).map (·.tag) =
      .ok "function" :=
  ⟨by decide +kernel, by decide +kernel,
    SameTagOrder.swap (by decide +kernel) [] [quotedPublisher, strayRelation],
    map_tag_of_check (by decide +kernel), map_tag_of_check (by decide +kernel)⟩

end SketchGen.Sketch
