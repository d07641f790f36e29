import SketchGen.Sketch.Program
import SketchGen.Proofs.Traversal

namespace SketchGen.Sketch

open SketchGen.Json SketchGen.Xml

/-! The sections of a generated sketch. When a component's sketch is generated, each section is
what its generator gives for the component, and each item of a section was made from one child
of the component: the sections are traversals of its tasks, publishers, subscribers and
routines, and a traversal that succeeds pairs every child with its item. The lemmas below read
off each item the identifier of the child it was made from, and the parts of the child that
later proofs follow further. -/

/-- A sketch whose sections are those generated for a component of the system `systemId`. -/
structure Generated (systemId : String) (cpc : Element) (sk : Program) : Prop where
  topics : topicsOf systemId cpc = .ok sk.topics
  clients : clientsOf cpc = .ok sk.clients
  goals : taskDeclsOf (tasks cpc) = .ok sk.goals
  outputs : outputVariablesOf cpc = .ok sk.outputs
  modes : modeDeclsOf cpc = .ok sk.modes
  structs : structDeclsOf cpc = .ok sk.structs
  sendHandles : (publishers cpc).mapM nameIdent = .ok sk.sendHandles
  receiveHandles : (subscribers cpc).mapM nameIdent = .ok sk.receiveHandles
  creations : creationNamesOf (tasks cpc) (publishers cpc) (subscribers cpc) = .ok sk.creations
  connections : connectionsOf cpc = .ok sk.connections
  callbacks : callbacksOf cpc = .ok sk.callbacks
  publishTasks : publishTasksOf cpc = .ok sk.publishTasks
  receiveTasks : receiveTasksOf cpc = .ok sk.receiveTasks
  routines : (cpc.childrenTagged "function").mapM (routineOf · cpc) = .ok sk.routines
  taskBodies : taskBodiesOf (tasks cpc) cpc = .ok sk.taskBodies

variable {systemId : String} {cpc : Element} {sk : Program}

theorem generated_of_sketchOf (h : sketchOf systemId cpc = .ok sk) : Generated systemId cpc sk := by
  simp only [sketchOf, Gen.bind_eq_ok, Gen.pure_eq_ok] at h
  obtain ⟨_, topics, _, clients, _, goals, _, outputs, _, modes, _, structs, _, sendHandles,
    _, receiveHandles, _, creations, _, connections, _, callbacks, _, publishTasks,
    _, receiveTasks, _, routines, _, taskBodies, rfl⟩ := h
  exact ⟨topics, clients, goals, outputs, modes, structs, sendHandles, receiveHandles, creations,
    connections, callbacks, publishTasks, receiveTasks, routines, taskBodies⟩

/-- A component with every kind of child a sketch is made from: two tasks, the second
depending on the first and on a routine, with operation modes; a routine with an input
parameter and operation modes, which initialises a software resource; a publisher and a
subscriber with their communication relations. -/
def sampleComponent : Element :=
  let leaf (key : Nat) (tag : String) (attrs : List (String × String)) : Element :=
    ⟨key, tag, attrs, "", [], ""⟩
  let level := "[\x7b\"name\": \"level\", \"type\": \"int\", \"description\": \"Reading\"\x7d]"
  let noNotes := [("qualification_array", "[]"), ("contribution_array", "[]")]
  ⟨0, "cpc", [("id", "c1"), ("name", "Unit")], "", [
    leaf 1 "thread" ([("id", "t1"), ("name", "Sense")] ++ noNotes),
    leaf 2 "thread" ([("id", "t2"), ("name", "Act"), ("operation_modes_enabled", "true"),
      ("operation_modes", "[\x7b\"code\": 1, \"name\": \"Idle\", \"description\": \"Waiting\"\x7d]")] ++
      noNotes),
    leaf 3 "function" ([("id", "f1"), ("name", "Check"), ("input_parameters", level),
      ("output_parameters", "[]"), ("operation_modes_enabled", "true"),
      ("operation_modes", "[\x7b\"code\": 2, \"name\": \"Low\", \"description\": \"Saving\"\x7d]")] ++
      noNotes),
    leaf 4 "relation" [("source", "t1"), ("target", "t2"), ("operator", "AND")],
    leaf 5 "relation" [("source", "f1"), ("target", "t2"), ("operator", "AND")],
    leaf 6 "commThread" [("id", "p1"), ("name", "Report"), ("data_structure", level)],
    leaf 7 "commRelation" [("source", "t1"), ("target", "p1")],
    leaf 8 "listenerThread" [("id", "s1"), ("name", "Listen"), ("comm_threadCPCId", "c2"),
      ("comm_threadId", "p9"), ("data_structure", level)],
    leaf 9 "commRelation" [("source", "s1"), ("target", "t2")],
    leaf 10 "sw_resource" [("id", "r1"), ("name", "Store"), ("data_structure", level)],
    leaf 11 "relation" [("source", "r1"), ("target", "f1")]], ""⟩

theorem sampleComponent_generated : ∃ sk, sketchOf "sys" sampleComponent = .ok sk :=
  Gen.exists_eq_ok_of_isOk (by decide +kernel)

/-! ### The owner of each item

Every item is made after, or from, the identifier of its child, and keeps it as its owner. -/

section Owners

variable {e : Element}

theorem jsonOr_of_jsonOf {key fallback : String} {v : Value} (h : jsonOf e key = .ok v) :
    jsonOr e key fallback = .ok v := by
  unfold jsonOf at h
  unfold jsonOr
  cases present : e.get? key with
  | none => rw [present] at h; cases h
  | some text => rw [present] at h; exact h

theorem taskDeclOf_owner {d : TaskDecl} (h : taskDeclOf e = .ok d) : nameIdent e = .ok d.owner := by
  simp only [taskDeclOf, Gen.bind_eq_ok, Gen.pure_eq_ok] at h
  obtain ⟨_, named, rfl⟩ := h
  exact named

theorem clientOf_owner {c : Client} (h : clientOf cpc e = .ok c) : nameIdent e = .ok c.owner := by
  simp only [clientOf, Gen.bind_eq_ok, Gen.pure_eq_ok] at h
  obtain ⟨_, named, _, _, _, _, rfl⟩ := h
  exact named

theorem sentTopicOf_owner {t : Topic} (h : sentTopicOf systemId cpc e = .ok t) :
    nameIdent e = .ok t.owner := by
  simp only [sentTopicOf, Gen.bind_eq_ok, Gen.pure_eq_ok] at h
  obtain ⟨_, named, _, _, _, _, rfl⟩ := h
  exact named

theorem receivedTopicOf_owner {t : Topic} (h : receivedTopicOf systemId e = .ok t) :
    nameIdent e = .ok t.owner := by
  simp only [receivedTopicOf, Gen.bind_eq_ok, Gen.pure_eq_ok] at h
  obtain ⟨_, named, _, _, _, _, rfl⟩ := h
  exact named

theorem receiveTaskOf_owner {rt : ReceiveTask} (h : receiveTaskOf cpc e = .ok rt) :
    nameIdent e = .ok rt.owner := by
  simp only [receiveTaskOf, Gen.bind_eq_ok, Gen.pure_eq_ok] at h
  obtain ⟨_, named, _, _, rfl⟩ := h
  exact named

theorem callbackOf_spec {cb : Callback} (h : callbackOf e = .ok cb) :
    nameIdent e = .ok cb.owner ∧
      (∃ fields, dependumFields e = .ok fields ∧ fields.mapM fieldIdent = .ok cb.fields) ∧
      modeSwitchOf e = .ok cb.switch := by
  simp only [callbackOf, Gen.bind_eq_ok, Gen.pure_eq_ok] at h
  obtain ⟨_, named, _, fields, _, idents, _, switch, rfl⟩ := h
  exact ⟨named, ⟨_, fields, idents⟩, switch⟩

theorem publishTaskOf_spec {pt : PublishTask} (h : publishTaskOf cpc e = .ok pt) :
    nameIdent e = .ok pt.owner ∧
      (∃ fields, dependumFields e = .ok fields ∧ fields.mapM fieldIdent = .ok pt.fields) ∧
      modeSwitchOf e = .ok pt.switch := by
  simp only [publishTaskOf, Gen.bind_eq_ok, Gen.pure_eq_ok] at h
  obtain ⟨_, _, _, fields, _, idents, _, switch, _, named, rfl⟩ := h
  exact ⟨named, ⟨_, fields, idents⟩, switch⟩

theorem taskBodyOf_spec {tb : TaskBody} (h : taskBodyOf cpc e = .ok tb) :
    nameIdent e = .ok tb.owner ∧ dependenciesOf e cpc = .ok tb.logic ∧
      modeSwitchOf e = .ok tb.switch := by
  simp only [taskBodyOf, Gen.bind_eq_ok, Gen.pure_eq_ok] at h
  obtain ⟨_, named, _, _, _, _, _, logic, _, switch, rfl⟩ := h
  exact ⟨named, logic, switch⟩

theorem topicsOf_spec {ts : Topics} (h : topicsOf systemId cpc = .ok ts) :
    (publishers cpc).mapM (sentTopicOf systemId cpc) = .ok ts.sent ∧
      (subscribers cpc).mapM (receivedTopicOf systemId) = .ok ts.received := by
  simp only [topicsOf, Gen.bind_eq_ok, Gen.pure_eq_ok] at h
  obtain ⟨_, sent, _, received, rfl⟩ := h
  exact ⟨sent, received⟩

theorem routineOf_spec {r : Routine} (h : routineOf e cpc = .ok r) :
    nameIdent e = .ok r.name ∧
      (∃ inputs items, jsonOf e "input_parameters" = .ok inputs ∧ inputs.items = .ok items ∧
        items.mapM signatureParamOf = .ok r.params) ∧
      modeCodeOf e = .ok r.modeCode ∧ modeSwitchOf e = .ok r.switch ∧
      ∃ used, (cpc.childrenTagged "sw_resource").filterM (usesResource cpc (shown e "id")) = .ok used ∧
        used.mapM resourceInitOf = .ok r.resources := by
  simp only [routineOf, Gen.bind_eq_ok, Gen.pure_eq_ok] at h
  obtain ⟨_, named, inputs, inputsOk, _, _, items, itemsOk, _, params, _, modeCode,
    _, _, _, _, _, _, _, _, _, _, _, _, _, _, _, _, _, _, _, switch, used, usedOk, _, inits, rfl⟩ := h
  exact ⟨named, ⟨inputs, items, inputsOk, itemsOk, params⟩, modeCode, switch, used, usedOk, inits⟩

theorem connectionsOf_spec {c : Connections} (h : connectionsOf cpc = .ok c) :
    (publishers cpc).mapM nameIdent = .ok c.senders ∧
      (subscribers cpc).mapM nameIdent = .ok c.receivers := by
  simp only [connectionsOf, Gen.bind_eq_ok, Gen.pure_eq_ok] at h
  obtain ⟨_, senders, _, receivers, rfl⟩ := h
  exact ⟨senders, receivers⟩

end Owners

theorem mem_creationNamesOf {threads senders receivers : List Element} {names : List String}
    (h : creationNamesOf threads senders receivers = .ok names) {m : String} (member : m ∈ names) :
    (∃ t ∈ threads, nameIdent t = .ok m) ∨
      (∃ p ∈ senders, ∃ n, nameIdent p = .ok n ∧ m = publishTaskName n) ∨
      (∃ q ∈ receivers, ∃ n, nameIdent q = .ok n ∧ m = receiveTaskName n) := by
  simp only [creationNamesOf, Gen.bind_eq_ok, Gen.pure_eq_ok] at h
  obtain ⟨own, ownOk, sent, sentOk, received, receivedOk, rfl⟩ := h
  simp only [List.mem_append, List.mem_map] at member
  rcases member with (ownMember | ⟨n, sentMember, rfl⟩) | ⟨n, receivedMember, rfl⟩
  · exact .inl (Gen.exists_of_mem_mapM ownOk ownMember)
  · obtain ⟨p, publisher, named⟩ := Gen.exists_of_mem_mapM sentOk sentMember
    exact .inr (.inl ⟨p, publisher, n, named, rfl⟩)
  · obtain ⟨q, subscriber, named⟩ := Gen.exists_of_mem_mapM receivedOk receivedMember
    exact .inr (.inr ⟨q, subscriber, n, named, rfl⟩)

/-! ### Dependencies -/

def Dependencies.owner : Dependencies → String
  | .toggle owner => owner
  | .joined owner _ _ => owner

def Dependencies.terms : Dependencies → List Term
  | .toggle _ => []
  | .joined _ _ terms => terms

theorem dependenciesOf_spec {thread : Element} {d : Dependencies}
    (h : dependenciesOf thread cpc = .ok d) :
    nameIdent thread = .ok d.owner ∧
      (relationsTo thread cpc).mapM (dependencyOf cpc) = .ok d.terms := by
  simp only [dependenciesOf, Gen.bind_eq_ok] at h
  obtain ⟨name, named, h⟩ := h
  split at h
  · rename_i none
    obtain rfl := Gen.pure_eq_ok.mp h
    exact ⟨named, by rw [none]; rfl⟩
  · rename_i first rest some
    simp only [Gen.bind_eq_ok, Gen.pure_eq_ok] at h
    obtain ⟨terms, termsOk, rfl⟩ := h
    exact ⟨named, some ▸ termsOk⟩

theorem dependencyOf_flag {relation : Element} {task : String}
    (h : dependencyOf cpc relation = .ok (.flag task)) :
    ∃ t ∈ tasks cpc, nameIdent t = .ok task := by
  dsimp only [dependencyOf] at h
  split at h
  · rename_i t found
    simp only [Gen.bind_eq_ok, Gen.pure_eq_ok, Term.flag.injEq] at h
    obtain ⟨_, named, rfl⟩ := h
    exact ⟨t, List.mem_of_find?_eq_some found, named⟩
  · split at h
    · cases h
    · simp [Gen.bind_eq_ok, Gen.map_eq_ok] at h

theorem dependencyOf_call {relation : Element} {routine : String} {args : List Param}
    (h : dependencyOf cpc relation = .ok (.call routine args)) :
    ∃ r ∈ cpc.childrenTagged "function", nameIdent r = .ok routine ∧
      ∃ params, (jsonOr r "input_parameters" "[]" >>= Value.items) = .ok params ∧
        params.mapM argumentOf = .ok args := by
  dsimp only [dependencyOf] at h
  split at h
  · simp [Gen.map_eq_ok] at h
  · split at h
    · cases h
    · rename_i r found
      simp only [Gen.bind_eq_ok, Gen.pure_eq_ok, Term.call.injEq] at h
      obtain ⟨_, named, value, valueOk, params, paramsOk, _, argsOk, rfl, rfl⟩ := h
      exact ⟨r, List.mem_of_find?_eq_some found, named, params,
        Gen.bind_eq_ok.mpr ⟨value, valueOk, paramsOk⟩, argsOk⟩

end SketchGen.Sketch
