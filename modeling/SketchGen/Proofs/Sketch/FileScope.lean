import Mathlib
import SketchGen.Proofs.Sketch.Buffers
import SketchGen.Proofs.Sketch.OperationModes
import SketchGen.Proofs.Sketch.Naming
import SketchGen.Proofs.Text.IdentifierShape
import SketchGen.Proofs.Text.Lines

namespace SketchGen.Sketch

open SketchGen.Json SketchGen.Xml SketchGen.Text

/-! What a sketch declares at file scope. In the order of its text: the clients of its
publishers and subscribers, the debug flag, their topics, the goal flags and handles of its
tasks, the output variables of its routines, its operation mode variables and data structures,
the handles of its publishing and receiving tasks, `setup()`, its callbacks, its publishing and
receiving tasks, `loop()`, its routines and its tasks' functions. Each declaration occurs in the
text, and the names are all distinct when the component's children have distinct identifiers
that hide no affix. -/

/-- A thing a sketch declares at file scope: a symbol, a routine's output variable, an
element's operation mode variable, an element's data structure (the struct and its one variable
share a name), the debug flag, or `setup()` and `loop()`. -/
inductive Global where
  | symbol (s : Symbol)
  | output (v : Variable)
  | mode (name : String)
  | dataStructure (owner : String)
  | debugFlag
  | setup
  | loop
deriving DecidableEq, Repr

def Global.ident : Global → String
  | .symbol s => s.ident
  | .output v => v.name
  | .mode name => name
  | .dataStructure owner => owner ++ "_data_structure"
  | .debugFlag => "debug"
  | .setup => "setup"
  | .loop => "loop"

def Global.declaration : Global → String
  | .symbol s => s.declaration
  | .output v => v.ctype.name ++ " " ++ v.name
  | .mode name => "int " ++ name ++ " = "
  | .dataStructure owner => "struct " ++ (owner ++ "_data_structure") ++ " \x7b\n"
  | .debugFlag => "bool debug = true;"
  | .setup => "void setup() \x7b"
  | .loop => "void loop() \x7b"

/-- The element a data structure is named after, unless its text is not JSON and it declares
nothing. -/
def StructDecl.owner? : StructDecl → Option String
  | .invalid => none
  | .struct owner _ => some owner

def Program.globals (sk : Program) : List Global :=
  (sk.clients.map (·.owner)).flatMap (fun n =>
      [Global.symbol (.clientId n), .symbol (.wifiClient n), .symbol (.mqttClient n)]) ++
    [Global.debugFlag] ++
    (sk.topics.sent.map (·.owner) ++ sk.topics.received.map (·.owner)).map
      (Global.symbol ∘ .topic) ++
    (sk.goals.map (·.owner)).flatMap (fun n =>
      [Global.symbol (.goalFlag n), .symbol (.taskHandle n)]) ++
    sk.outputs.map Global.output ++
    (sk.modes.map (·.ident)).map Global.mode ++
    (sk.structs.filterMap StructDecl.owner?).map Global.dataStructure ++
    sk.sendHandles.map (fun n => Global.symbol (.taskHandle (publishTaskName n))) ++
    sk.receiveHandles.map (fun n => Global.symbol (.taskHandle (receiveTaskName n))) ++
    [Global.setup] ++
    (sk.callbacks.map (·.owner)).map (Global.symbol ∘ .callback) ++
    (sk.publishTasks.map (·.owner)).map
      (fun n => Global.symbol (.taskFunction (publishTaskName n))) ++
    (sk.receiveTasks.map (·.owner)).map
      (fun n => Global.symbol (.taskFunction (receiveTaskName n))) ++
    [Global.loop] ++
    (sk.routines.map (·.name)).map (Global.symbol ∘ .routine) ++
    (sk.taskBodies.map (·.owner)).map (Global.symbol ∘ .taskFunction)

/-! ### Each declaration occurs in the text -/

section Occurrence

variable {sk : Program}

theorem Variable.occurs_init (v : Variable) :
    ∃ line, v.line "" .init = some line ∧ Occurs (Global.output v).declaration line :=
  ⟨_, rfl, ((((occurs_append_left_self _ _).append_right "").append_left _).append_left _).append_left _⟩

theorem occurs_output {v : Variable} (member : v ∈ sk.outputs) :
    Occurs (Global.output v).declaration sk.text := by
  have part : String.join (sk.outputs.filterMap (Variable.line "" .init)) ∈ sk.parts := by
    simp [Program.parts]
  obtain ⟨line, written, declared⟩ := v.occurs_init
  exact occurs_text_of_part part
    (declared.trans (occurs_join_of_mem (List.mem_filterMap.mpr ⟨v, member, written⟩)))

theorem occurs_mode {d : ModeDecl} (member : d ∈ sk.modes) :
    Occurs (Global.mode d.ident).declaration sk.text := by
  refine Occurs.trans ?_ (occurs_modeDecl member)
  unfold ModeDecl.text Global.declaration
  repeat (first | with_reducible exact occurs_append_left_self _ _ |
    with_reducible apply Occurs.append_left)

theorem occurs_dataStructure {owner : String} {members : List Variable}
    (member : .struct owner members ∈ sk.structs) :
    Occurs (Global.dataStructure owner).declaration sk.text := by
  have part : "\n".intercalate (sk.structs.map (StructDecl.text .declare)) ∈ sk.parts := by
    simp [Program.parts]
  refine occurs_text_of_part part (Occurs.trans ?_
    (occurs_intercalate_of_mem "\n" (List.mem_map_of_mem member)))
  dsimp only [StructDecl.text, Global.declaration]
  repeat (first | with_reducible exact occurs_append_left_self _ _ |
    with_reducible apply Occurs.append_left)

theorem occurs_debugFlag : Occurs Global.debugFlag.declaration sk.text := by
  have part : "\nbool debug = true;\n\n" ++
      "// MQTT topics for this CPC (\x7bCPS_id\x7d/\x7bCPC_id\x7d/\x7bcomm_thread_id\x7d)\n\n" ∈
      sk.parts := by
    simp [Program.parts]
  have line : Occurs Global.debugFlag.declaration "\nbool debug = true;\n\n" := by
    unfold Occurs
    decide
  exact occurs_text_of_part part (line.append_left _)

theorem occurs_setup : Occurs Global.setup.declaration sk.text := by
  have part : setupOpening ∈ sk.parts := by simp [Program.parts]
  have line : Occurs Global.setup.declaration "void setup() \x7b\n" := by
    unfold Occurs
    decide
  refine occurs_text_of_part part (line.trans ?_)
  unfold setupOpening
  repeat (first | with_reducible exact occurs_append_right_self _ _ |
    with_reducible apply Occurs.append_left)

theorem occurs_loop : Occurs Global.loop.declaration sk.text := by
  have part : loopText ∈ sk.parts := by simp [Program.parts]
  have line : Occurs Global.loop.declaration "void loop() \x7b\n" := by
    unfold Occurs
    decide
  refine occurs_text_of_part part (line.trans ?_)
  unfold loopText
  repeat (first | with_reducible exact occurs_append_right_self _ _ |
    with_reducible apply Occurs.append_left)

theorem occurs_of_mem_globals {g : Global} (member : g ∈ sk.globals) :
    Occurs g.declaration sk.text := by
  unfold Program.globals at member
  simp only [List.mem_append, List.mem_flatMap, List.mem_map, List.mem_cons,
    List.not_mem_nil, or_false, Function.comp_apply, List.mem_filterMap,
    exists_exists_and_eq_and, or_assoc] at member
  rcases member with ⟨c, client, rfl | rfl | rfl⟩ | rfl |
    ⟨n, ⟨t, sent, rfl⟩ | ⟨t, received, rfl⟩, rfl⟩ | ⟨d, goal, rfl | rfl⟩ | ⟨v, output, rfl⟩ |
    ⟨d, mode, rfl⟩ | ⟨owner, ⟨x, structured, owned⟩, rfl⟩ | ⟨n, handle, rfl⟩ | ⟨n, handle, rfl⟩ |
    rfl | ⟨cb, callback, rfl⟩ | ⟨pt, task, rfl⟩ | ⟨rt, task, rfl⟩ | rfl | ⟨r, routine, rfl⟩ |
    ⟨tb, body, rfl⟩
  · exact (declares_of_client client).1
  · exact (declares_of_client client).2.1
  · exact (declares_of_client client).2.2
  · exact occurs_debugFlag
  · exact declares_of_sent_topic sent
  · exact declares_of_received_topic received
  · exact (declares_of_goal goal).1
  · exact (declares_of_goal goal).2
  · exact occurs_output output
  · exact occurs_mode mode
  · cases x with
    | invalid => cases owned
    | struct owner members =>
      cases owned
      exact occurs_dataStructure structured
  · exact declares_of_sendHandle handle
  · exact declares_of_receiveHandle handle
  · exact occurs_setup
  · exact declares_of_callback callback
  · exact declares_of_publishTask task
  · exact declares_of_receiveTask task
  · exact occurs_loop
  · exact declares_of_routine routine
  · exact declares_of_taskBody body

end Occurrence

theorem globals_ident {sk : Program} {nm : Naming}
    (clients : sk.clients.map (·.owner) = nm.subscribers ++ nm.publishers)
    (sent : sk.topics.sent.map (·.owner) = nm.publishers)
    (received : sk.topics.received.map (·.owner) = nm.subscribers)
    (goals : sk.goals.map (·.owner) = nm.tasks)
    (outputs : sk.outputs.map (·.name) =
      nm.routines.flatMap fun ro => ro.2.map (ro.1 ++ "_" ++ ·))
    (modes : sk.modes.map (·.ident) = nm.modes.map (· ++ "_operation_mode"))
    (structs : sk.structs.filterMap StructDecl.owner? = nm.structs)
    (sendHandles : sk.sendHandles = nm.publishers)
    (receiveHandles : sk.receiveHandles = nm.subscribers)
    (callbacks : sk.callbacks.map (·.owner) = nm.subscribers)
    (publishTasks : sk.publishTasks.map (·.owner) = nm.publishers)
    (receiveTasks : sk.receiveTasks.map (·.owner) = nm.subscribers)
    (routines : sk.routines.map (·.name) = nm.routines.map Prod.fst)
    (bodies : sk.taskBodies.map (·.owner) = nm.tasks) :
    sk.globals.map Global.ident = nm.declared := by
  unfold Program.globals Naming.declared
  rw [clients, sent, received, goals, modes, structs, sendHandles,
    receiveHandles, callbacks, publishTasks, receiveTasks, routines, bodies, ← outputs]
  simp only [List.map_append, List.map_flatMap, List.map_map, List.map_cons, List.map_nil]
  rfl

/-! ### The identifiers of a generated sketch -/

/-- The children of a component that name file-scope things: its tasks, publishers,
subscribers, routines and software resources. -/
def namedChildren (cpc : Element) : List Element :=
  tasks cpc ++ publishers cpc ++ subscribers cpc ++ cpc.childrenTagged "function" ++
    cpc.childrenTagged "sw_resource"

def DistinctlyNamed (cs : List Element) : Prop :=
  cs.Pairwise fun a b => ∀ x y, nameIdent a = .ok x → nameIdent b = .ok y → x ≠ y

def paramIdent (p : Value) : Gen String := do identifierOf (← p.member "name")

def outputIdents (routine : Element) : Gen (List String) := do
  (← (← jsonOf routine "output_parameters").items).mapM paramIdent

def routineIdents (routine : Element) : Gen (String × List String) := do
  pure (← nameIdent routine, ← outputIdents routine)

/-- A component whose children name file-scope things apart: its tasks, publishers,
subscribers, routines and software resources have distinct identifiers without underscores, no
routine's, publisher's or subscriber's identifier is a word that a name of another kind ends up
as, and each routine's outputs have distinct identifiers. -/
structure WellNamed (cpc : Element) : Prop where
  distinct : DistinctlyNamed (namedChildren cpc)
  underscore : ∀ c ∈ namedChildren cpc, ∀ n, nameIdent c = .ok n → '_' ∉ n.toList
  routines : ∀ f ∈ cpc.childrenTagged "function", ∀ n, nameIdent f = .ok n → RoutineWord n
  threads : ∀ c ∈ publishers cpc ++ subscribers cpc, ∀ n, nameIdent c = .ok n → ThreadWord n
  outputs : ∀ f ∈ cpc.childrenTagged "function", ∀ os, outputIdents f = .ok os → os.Nodup

theorem DistinctlyNamed.nodup : ∀ {cs : List Element} {ns : List String}, DistinctlyNamed cs →
    cs.mapM nameIdent = .ok ns → ns.Nodup
  | [], ns, _, named => by
    simp only [List.mapM_nil, Gen.pure_eq_ok] at named
    rw [← named]
    exact List.nodup_nil
  | c :: cs, ns, distinct, named => by
    simp only [List.mapM_cons, Gen.bind_eq_ok, Gen.pure_eq_ok] at named
    obtain ⟨n, first, rest, restNamed, rfl⟩ := named
    obtain ⟨apart, distinctRest⟩ := List.pairwise_cons.mp distinct
    refine List.nodup_cons.mpr ⟨fun later => ?_, DistinctlyNamed.nodup distinctRest restNamed⟩
    obtain ⟨c', member, second⟩ := Gen.exists_of_mem_mapM restNamed later
    exact apart c' member n n first second rfl

theorem DistinctlyNamed.of_mapM : ∀ {cs : List Element} {ns : List String},
    cs.mapM nameIdent = .ok ns → ns.Nodup → DistinctlyNamed cs
  | [], _, _, _ => List.Pairwise.nil
  | c :: cs, ns, named, nodup => by
    simp only [List.mapM_cons, Gen.bind_eq_ok, Gen.pure_eq_ok] at named
    obtain ⟨n, first, rest, restNamed, rfl⟩ := named
    obtain ⟨fresh, nodupRest⟩ := List.nodup_cons.mp nodup
    refine List.Pairwise.cons (fun c' member x y got got' => ?_)
      (DistinctlyNamed.of_mapM restNamed nodupRest)
    obtain ⟨y', later, second⟩ := Gen.exists_of_mem_mapM_left restNamed member
    obtain rfl : x = n := Except.ok.inj (got.symm.trans first)
    obtain rfl : y = y' := Except.ok.inj (got'.symm.trans second)
    exact fun same => fresh (same ▸ later)

theorem DistinctlyNamed.perm {cs cs' : List Element} (distinct : DistinctlyNamed cs)
    (perm : cs.Perm cs') : DistinctlyNamed cs' :=
  List.Pairwise.perm distinct perm fun apart x y got got' same => apart y x got' got same.symm

theorem DistinctlyNamed.apart {a b : List Element} {ns ms : List String}
    (distinct : DistinctlyNamed (a ++ b)) (named : a.mapM nameIdent = .ok ns)
    (named' : b.mapM nameIdent = .ok ms) : ∀ n ∈ ns, n ∉ ms := by
  have traversed : (a ++ b).mapM nameIdent = .ok (ns ++ ms) := by
    rw [List.mapM_append, named, named']
    rfl
  have nodup := distinct.nodup traversed
  exact fun n mine theirs => (List.nodup_append.mp nodup).2.2 n mine n theirs rfl

theorem nameIdent_unglued {c : Element} {n : String} (named : nameIdent c = .ok n)
    (clear : '_' ∉ n.toList) : Unglued n := by
  obtain ⟨s, -, made⟩ := identifierOf_eq_ok named
  exact ⟨clear, identifier?_head made⟩

theorem strip_isEmpty_of_nameIdent {c : Element} {n : String} (named : nameIdent c = .ok n) :
    (strip n).isEmpty = false := by
  obtain ⟨s, -, made⟩ := identifierOf_eq_ok named
  obtain ⟨d, rest, chars, -⟩ := identifier?_head made
  cases blank : (strip n).isEmpty
  · rfl
  · have := (strip_isEmpty_iff n).mp blank d (by simp [chars])
    rw [identifier?_not_blank made d (by simp [chars])] at this
    cases this

theorem WellNamed.names {cpc : Element} {sub : List Element} {ns : List String}
    (named : WellNamed cpc) (sublist : sub.Sublist (namedChildren cpc))
    (traversed : sub.mapM nameIdent = .ok ns) : ns.Nodup ∧ ∀ n ∈ ns, Unglued n := by
  refine ⟨DistinctlyNamed.nodup (named.distinct.sublist sublist) traversed, fun n member => ?_⟩
  obtain ⟨c, child, got⟩ := Gen.exists_of_mem_mapM traversed member
  exact nameIdent_unglued got (named.underscore c (sublist.subset child) n got)

theorem modeOwners_eq (cpc : Element) :
    ["thread", "commThread", "listenerThread"].flatMap cpc.childrenTagged =
      tasks cpc ++ publishers cpc ++ subscribers cpc := by
  simp [tasks, publishers, subscribers]

theorem structOwners_eq (cpc : Element) :
    ["commThread", "listenerThread", "sw_resource"].flatMap cpc.childrenTagged =
      publishers cpc ++ subscribers cpc ++ cpc.childrenTagged "sw_resource" := by
  simp [publishers, subscribers]

theorem functions_sublist (cpc : Element) :
    (tasks cpc ++ publishers cpc ++ subscribers cpc ++ cpc.childrenTagged "function").Sublist
      (namedChildren cpc) :=
  List.sublist_append_left _ _

theorem namedChildren_perm (cpc : Element) : (namedChildren cpc).Perm
    (tasks cpc ++ (publishers cpc ++ subscribers cpc ++ cpc.childrenTagged "sw_resource") ++
      cpc.childrenTagged "function") := by
  unfold namedChildren
  simp only [List.append_assoc]
  exact List.Perm.append_left _ (List.Perm.append_left _ (List.Perm.append_left _
    List.perm_append_comm))

theorem structOwners_sublist (cpc : Element) :
    (publishers cpc ++ subscribers cpc ++ cpc.childrenTagged "sw_resource").Sublist
      (namedChildren cpc) := by
  unfold namedChildren
  simp only [List.append_assoc]
  exact List.sublist_append_of_sublist_right (List.Sublist.append_left
    (List.Sublist.append_left (List.sublist_append_right _ _) _) _)

/-! ### Names of one item -/

theorem ofParam_ident {owner : String} {p : Value} {v : Variable}
    (declared : Variable.ofParam owner p = .ok v) :
    ∃ o, paramIdent p = .ok o ∧
      v.name = if (strip owner).isEmpty then o else owner ++ "_" ++ o := by
  simp only [Variable.ofParam, Gen.bind_eq_ok, Gen.pure_eq_ok] at declared
  obtain ⟨_, _, _, _, x, named, o, ident, _, _, made⟩ := declared
  refine ⟨o, ?_, by rw [← made]⟩
  simp only [paramIdent, Gen.bind_eq_ok]
  exact ⟨x, named, ident⟩

theorem modeDeclOf_ident {e : Element} {d : ModeDecl} (h : modeDeclOf e = .ok (some d)) :
    ∃ n, nameIdent e = .ok n ∧ d.ident = n ++ "_operation_mode" := by
  unfold modeDeclOf at h
  cases enabled : modesEnabled e
  · simp [enabled] at h
    cases h
  · simp only [enabled, Bool.not_true, Bool.false_eq_true, if_false, Gen.bind_eq_ok] at h
    obtain ⟨modes, _, h⟩ := h
    cases listed : modes.truthy
    · simp [listed] at h
      cases h
    · simp only [listed, Bool.not_true, Bool.false_eq_true, if_false, Gen.bind_eq_ok,
        Gen.pure_eq_ok] at h
      obtain ⟨var, named, _, _, _, _, _, _, _, _, same⟩ := h
      cases same
      simp only [modeVariable, Gen.bind_eq_ok, Gen.pure_eq_ok] at named
      obtain ⟨n, got, rfl⟩ := named
      exact ⟨n, got, rfl⟩

theorem structOf_owner {e : Element} {owner : String} {members : List Variable}
    (h : structOf e = .ok (.struct owner members)) : nameIdent e = .ok owner := by
  cases read : Json.read (structureSource e) with
  | ok v =>
    obtain ⟨_, _, _, _, _, _, owner', named, same⟩ := structOf_of_read read h
    cases same
    exact named
  | error err =>
    unfold structOf at h
    rw [read] at h
    cases err <;> simp [pure, Except.pure, throw, throwThe, MonadExceptOf.throw] at h

theorem routineIdents_of_routineOf {cpc e : Element} {r : Routine}
    (compiled : routineOf e cpc = .ok r) :
    ∃ os, routineIdents e = .ok (r.name, os) ∧
      r.outputs.map (·.name) = os.map (r.name ++ "_" ++ ·) := by
  obtain ⟨named, outputs, items, outputsOk, itemsOk, vars⟩ := routineOf_outputs compiled
  obtain ⟨os, identsOk⟩ : ∃ os, items.mapM paramIdent = .ok os :=
    Gen.exists_mapM_eq_ok_iff.mpr fun p member => by
      obtain ⟨v, _, declared⟩ := Gen.exists_of_mem_mapM_left vars member
      obtain ⟨o, ident, _⟩ := ofParam_ident declared
      exact ⟨o, ident⟩
  refine ⟨os, ?_, ?_⟩
  · simp only [routineIdents, outputIdents, named, outputsOk, itemsOk, identsOk, bind,
      Except.bind, pure, Except.pure]
  · refine Gen.map_eq_map_of_agree _ _ (fun p _ v o declared ident => ?_) vars identsOk
    obtain ⟨o', ident', named'⟩ := ofParam_ident declared
    obtain rfl : o' = o := Except.ok.inj (ident'.symm.trans ident)
    simp only [named', strip_isEmpty_of_nameIdent named, Bool.false_eq_true, if_false]

/-! ### Sections of a generated sketch -/

section Generated

variable {systemId : String} {cpc : Element} {sk : Program}

theorem names_eq_owners {β : Type} {f : Element → Gen β} (owner : β → String)
    (owned : ∀ e b, f e = .ok b → nameIdent e = .ok (owner b)) {xs : List Element}
    {ns : List String} {bs : List β} (named : xs.mapM nameIdent = .ok ns)
    (made : xs.mapM f = .ok bs) : bs.map owner = ns :=
  (Gen.mapM_eq_map_of_agree owner (fun e _ b got stepped =>
    Except.ok.inj (got.symm.trans (owned e b stepped))) named made).symm

theorem tasks_named (generated : Generated systemId cpc sk) :
    (tasks cpc).mapM nameIdent = .ok (sk.goals.map (·.owner)) :=
  Gen.mapM_eq_ok_map _ (fun _ _ => taskDeclOf_owner) generated.goals

theorem section_owners (generated : Generated systemId cpc sk) :
    sk.clients.map (·.owner) = sk.receiveHandles ++ sk.sendHandles ∧
      sk.topics.sent.map (·.owner) = sk.sendHandles ∧
      sk.topics.received.map (·.owner) = sk.receiveHandles ∧
      sk.callbacks.map (·.owner) = sk.receiveHandles ∧
      sk.publishTasks.map (·.owner) = sk.sendHandles ∧
      sk.receiveTasks.map (·.owner) = sk.receiveHandles ∧
      sk.taskBodies.map (·.owner) = sk.goals.map (·.owner) := by
  have sent := generated.sendHandles
  have received := generated.receiveHandles
  obtain ⟨sentTopics, receivedTopics⟩ := topicsOf_spec generated.topics
  have both : (subscribers cpc ++ publishers cpc).mapM nameIdent =
      .ok (sk.receiveHandles ++ sk.sendHandles) := by
    rw [List.mapM_append, received, sent]
    rfl
  exact ⟨names_eq_owners _ (fun _ _ => clientOf_owner) both generated.clients,
    names_eq_owners _ (fun _ _ => sentTopicOf_owner) sent sentTopics,
    names_eq_owners _ (fun _ _ => receivedTopicOf_owner) received receivedTopics,
    names_eq_owners _ (fun _ _ made => (callbackOf_spec made).1) received generated.callbacks,
    names_eq_owners _ (fun _ _ made => (publishTaskOf_spec made).1) sent generated.publishTasks,
    names_eq_owners _ (fun _ _ => receiveTaskOf_owner) received generated.receiveTasks,
    names_eq_owners _ (fun _ _ made => (taskBodyOf_spec made).1) (tasks_named generated)
      generated.taskBodies⟩

theorem routines_named (generated : Generated systemId cpc sk) :
    ∃ rs, (cpc.childrenTagged "function").mapM routineIdents = .ok rs ∧
      sk.routines.map (·.name) = rs.map Prod.fst ∧
      sk.outputs.map (·.name) = rs.flatMap fun ro => ro.2.map (ro.1 ++ "_" ++ ·) := by
  obtain ⟨rs, identsOk⟩ := Gen.exists_mapM_eq_ok_iff.mpr fun e member => by
    obtain ⟨r, _, compiled⟩ := Gen.exists_of_mem_mapM_left generated.routines member
    obtain ⟨os, got, _⟩ := routineIdents_of_routineOf compiled
    exact ⟨_, got⟩
  have paired : sk.routines.map (fun r => (r.name, r.outputs.map (·.name))) =
      rs.map fun ro => (ro.1, ro.2.map (ro.1 ++ "_" ++ ·)) := by
    refine Gen.map_eq_map_of_agree _ _ (fun e member r ro compiled got => ?_)
      generated.routines identsOk
    obtain ⟨os, got', named⟩ := routineIdents_of_routineOf compiled
    obtain rfl : ro = (r.name, os) := Except.ok.inj (got.symm.trans got')
    rw [named]
  have names := congrArg (List.map Prod.fst) paired
  simp only [List.map_map, Function.comp_def] at names
  refine ⟨rs, identsOk, names, ?_⟩
  rw [outputs_eq_routine_outputs generated, List.map_flatMap, List.flatMap_def, List.flatMap_def]
  have outputs := congrArg (List.map Prod.snd) paired
  simp only [List.map_map] at outputs
  exact congrArg List.flatten outputs

theorem modes_named (generated : Generated systemId cpc sk) :
    ∃ (sub : List Element) (ms : List String),
      sub.Sublist (tasks cpc ++ publishers cpc ++ subscribers cpc) ∧
      sub.mapM nameIdent = .ok ms ∧
      sk.modes.map (·.ident) = ms.map (· ++ "_operation_mode") := by
  have modes := generated.modes
  simp only [modeDeclsOf, Gen.bind_eq_ok, Gen.pure_eq_ok] at modes
  obtain ⟨decls, declsOk, reduced⟩ := modes
  have step : ∀ e (b : Option ModeDecl) i, modeDeclOf e = .ok b → b.map (·.ident) = some i →
      ∃ n, nameIdent e = .ok n ∧ i = n ++ "_operation_mode" := by
    intro e b i made keep
    obtain ⟨d, rfl, rfl⟩ := Option.map_eq_some_iff.mp keep
    exact modeDeclOf_ident made
  obtain ⟨sub, ms, sublist, named, kept⟩ :=
    Gen.exists_sublist_of_mapM (Option.map (·.ident)) (· ++ "_operation_mode") step declsOk
  refine ⟨sub, ms, modeOwners_eq cpc ▸ sublist, named, ?_⟩
  rw [← reduced, List.reduceOption, List.map_filterMap]
  exact kept

theorem structs_named (generated : Generated systemId cpc sk) :
    ∃ (sub : List Element) (xs : List String),
      sub.Sublist (publishers cpc ++ subscribers cpc ++ cpc.childrenTagged "sw_resource") ∧
      sub.mapM nameIdent = .ok xs ∧ sk.structs.filterMap StructDecl.owner? = xs := by
  have step : ∀ e (b : StructDecl) owner, structOf e = .ok b → b.owner? = some owner →
      ∃ n, nameIdent e = .ok n ∧ owner = id n := by
    intro e b owner made keep
    cases b with
    | invalid => cases keep
    | struct owner' members =>
      cases keep
      exact ⟨_, structOf_owner made, rfl⟩
  obtain ⟨sub, xs, sublist, named, kept⟩ :=
    Gen.exists_sublist_of_mapM StructDecl.owner? id step generated.structs
  exact ⟨sub, xs, structOwners_eq cpc ▸ sublist, named, by rw [kept, List.map_id]⟩

/-- The identifiers a generated sketch's sections are owned by: a naming that names them
distinctly when the component is well named. -/
theorem exists_naming (generated : Generated systemId cpc sk) (named : WellNamed cpc) :
    ∃ nm : Naming, sk.globals.map Global.ident = nm.declared ∧ nm.Distinct := by
  obtain ⟨rs, routinesOk, routineNames, outputNames⟩ := routines_named generated
  obtain ⟨modeSub, ms, modeSubOk, modesOk, modeNames⟩ := modes_named generated
  obtain ⟨structSub, xs, structSubOk, structsOk, structNames⟩ := structs_named generated
  obtain ⟨clients, sent, received, callbacks, publishTasks, receiveTasks, bodies⟩ :=
    section_owners generated
  have functionNames : (cpc.childrenTagged "function").mapM nameIdent = .ok (rs.map Prod.fst) := by
    refine Gen.mapM_eq_ok_map Prod.fst (fun e ro got => ?_) routinesOk
    simp only [routineIdents, Gen.bind_eq_ok, Gen.pure_eq_ok] at got
    obtain ⟨n, got, _, _, rfl⟩ := got
    exact got
  have threadNames : (publishers cpc ++ subscribers cpc).mapM nameIdent =
      .ok (sk.sendHandles ++ sk.receiveHandles) := by
    rw [List.mapM_append, generated.sendHandles, generated.receiveHandles]
    rfl
  have allNamed : (tasks cpc ++ publishers cpc ++ subscribers cpc ++
      cpc.childrenTagged "function").mapM nameIdent =
      .ok (sk.goals.map (·.owner) ++ sk.sendHandles ++ sk.receiveHandles ++ rs.map Prod.fst) := by
    rw [List.mapM_append, List.mapM_append, List.mapM_append, tasks_named generated,
      generated.sendHandles, generated.receiveHandles, functionNames]
    rfl
  obtain ⟨nodup, unglued⟩ := named.names (functions_sublist cpc) allNamed
  obtain ⟨modesNodup, modesUnglued⟩ :=
    named.names ((modeSubOk.trans (List.sublist_append_left _ _)).trans
      (functions_sublist cpc)) modesOk
  obtain ⟨structsNodup, structsUnglued⟩ :=
    named.names (structSubOk.trans (structOwners_sublist cpc)) structsOk
  -- an element with a mode variable or a data structure is not a routine
  have modesApart : ∀ m ∈ ms, m ∉ rs.map Prod.fst := by
    refine DistinctlyNamed.apart (named.distinct.sublist ?_) modesOk functionNames
    exact (modeSubOk.append (List.Sublist.refl _)).trans (functions_sublist cpc)
  have structsApart : ∀ x ∈ xs, x ∉ rs.map Prod.fst := by
    refine DistinctlyNamed.apart ((named.distinct.perm (namedChildren_perm cpc)).sublist ?_)
      structsOk functionNames
    exact (structSubOk.trans (List.sublist_append_right _ _)).append (List.Sublist.refl _)
  refine ⟨⟨sk.goals.map (·.owner), sk.sendHandles, sk.receiveHandles, rs, ms, xs⟩,
    globals_ident clients sent received rfl outputNames modeNames structNames rfl rfl callbacks
      publishTasks receiveTasks routineNames bodies,
    ⟨nodup, ?unglued, ?routineWords, ?threadWords, ?outputs, ⟨modesNodup, modesApart⟩,
      ⟨structsNodup, structsApart⟩⟩⟩
  case unglued =>
    intro n member
    rcases List.mem_append.mp member with member | inStructs
    · rcases List.mem_append.mp member with child | inModes
      · exact unglued n child
      · exact modesUnglued n inModes
    · exact structsUnglued n inStructs
  case routineWords =>
    intro f member
    obtain ⟨e, routine, got⟩ := Gen.exists_of_mem_mapM functionNames member
    exact named.routines e routine f got
  case threadWords =>
    intro n member
    obtain ⟨e, thread, got⟩ := Gen.exists_of_mem_mapM threadNames member
    exact named.threads e thread n got
  case outputs =>
    intro ro member
    obtain ⟨e, routine, got⟩ := Gen.exists_of_mem_mapM routinesOk member
    simp only [routineIdents, Gen.bind_eq_ok, Gen.pure_eq_ok] at got
    obtain ⟨_, _, os, listed, rfl⟩ := got
    exact named.outputs e routine os listed

end Generated

/-- A well-named component's sketch declares each of its file-scope names, and none twice. -/
theorem file_scope_names_distinct {systemId : String} {cpc : Element} {sk : Program}
    (made : sketchOf systemId cpc = .ok sk) (named : WellNamed cpc) :
    (∀ g ∈ sk.globals, Occurs g.declaration sk.text) ∧ (sk.globals.map Global.ident).Nodup := by
  obtain ⟨nm, declared, distinct⟩ := exists_naming (generated_of_sketchOf made) named
  refine ⟨fun g member => occurs_of_mem_globals member, ?_⟩
  rw [declared]
  exact Naming.declared_nodup distinct

/-- A component whose children have names of two words: a task, a routine with one output, a
publisher the task sends to, a subscriber that hands to the task, and a software resource. -/
def tankComponent : Element :=
  let leaf (key : Nat) (tag : String) (attrs : List (String × String)) : Element :=
    ⟨key, tag, attrs, "", [], ""⟩
  let noNotes := [("qualification_array", "[]"), ("contribution_array", "[]")]
  ⟨0, "cpc", [("id", "c1"), ("name", "Tank Unit")], "", [
    leaf 1 "thread" ([("id", "t1"), ("name", "Fill Tank")] ++ noNotes),
    leaf 2 "function" ([("id", "f1"), ("name", "Check Level"), ("input_parameters", "[]"),
      ("output_parameters",
        "[\x7b\"name\": \"Level Value\", \"type\": \"int\", \"description\": \"d\"\x7d]")] ++
      noNotes),
    leaf 3 "commThread" [("id", "p1"), ("name", "Level Report"), ("data_structure", "[]")],
    leaf 4 "listenerThread" [("id", "s1"), ("name", "Pump Command"), ("comm_threadCPCId", "c2"),
      ("comm_threadId", "p9"), ("data_structure", "[]")],
    leaf 5 "sw_resource" [("id", "r1"), ("name", "Tank Data"), ("data_structure", "[]")],
    leaf 6 "commRelation" [("source", "t1"), ("target", "p1")],
    leaf 7 "commRelation" [("source", "s1"), ("target", "t1")]], ""⟩

/-- The identifiers of the tank component's children and of its routine's output, when its
sketch is made. -/
def tankIdentsListed : Bool :=
  match (namedChildren tankComponent).mapM nameIdent,
      (tankComponent.childrenTagged "function").mapM outputIdents,
      sketchOf "sys" tankComponent with
  | .ok ns, .ok oss, .ok _ =>
    ns == ["fillTank", "levelReport", "pumpCommand", "checkLevel", "tankData"] &&
      oss == [["levelValue"]]
  | _, _, _ => false

theorem tankComponent_names_distinct :
    WellNamed tankComponent ∧ ∃ sk, sketchOf "sys" tankComponent = .ok sk ∧
      (∀ g ∈ sk.globals, Occurs g.declaration sk.text) ∧ (sk.globals.map Global.ident).Nodup := by
  have evaluated : tankIdentsListed = true := by decide +kernel
  unfold tankIdentsListed at evaluated
  split at evaluated
  · rename_i ns oss sk namesOk outputsOk made
    simp only [Bool.and_eq_true, beq_iff_eq] at evaluated
    obtain ⟨rfl, rfl⟩ := evaluated
    have words : ∀ n ∈ ["fillTank", "levelReport", "pumpCommand", "checkLevel", "tankData"],
        '_' ∉ n.toList ∧ n ∉ routineReserved ∧ ¬ "Task".toList <:+ n.toList ∧
          ¬ "Client".toList <:+ n.toList ∧ ¬ "ClientId".toList <:+ n.toList ∧
          n ≠ "callback" ∧ ¬ "Mqtt".toList <:+ n.toList := by
      decide
    have listed : ∀ c ∈ namedChildren tankComponent, ∀ n, nameIdent c = .ok n →
        n ∈ ["fillTank", "levelReport", "pumpCommand", "checkLevel", "tankData"] := by
      intro c member n got
      obtain ⟨n', listedName, got'⟩ := Gen.exists_of_mem_mapM_left namesOk member
      rwa [Except.ok.inj (got.symm.trans got')]
    have named : WellNamed tankComponent := by
      refine ⟨DistinctlyNamed.of_mapM namesOk (by decide), ?underscore, ?routines, ?threads,
        ?outputs⟩
      case underscore => exact fun c member n got => (words n (listed c member n got)).1
      case routines =>
        intro f member n got
        obtain ⟨-, free, task, client, clientId, -⟩ :=
          words n (listed f ((functions_sublist _).subset (List.mem_append_right _ member)) n got)
        exact ⟨free, task, client, clientId⟩
      case threads =>
        intro c member n got
        obtain ⟨-, -, -, -, -, notCallback, notMqtt⟩ :=
          words n (listed c ((structOwners_sublist _).subset (List.mem_append_left _ member)) n got)
        exact ⟨notCallback, notMqtt⟩
      case outputs =>
        intro f member os got
        obtain ⟨os', listedOutputs, got'⟩ := Gen.exists_of_mem_mapM_left outputsOk member
        obtain rfl : os = os' := Except.ok.inj (got.symm.trans got')
        simp only [List.mem_cons, List.not_mem_nil, or_false] at listedOutputs
        subst listedOutputs
        decide
    exact ⟨named, sk, made, file_scope_names_distinct made named⟩
  · cases evaluated

/-- A component whose routine `N_data` has an output `structure` and whose software resource is
`N`: the identifiers differ, but the routine's output variable and the resource's data structure
are both named `n_data_structure`. -/
def dataClashComponent : Element :=
  let leaf (key : Nat) (tag : String) (attrs : List (String × String)) : Element :=
    ⟨key, tag, attrs, "", [], ""⟩
  ⟨0, "cpc", [("id", "c1"), ("name", "Unit")], "", [
    leaf 1 "function" [("id", "f1"), ("name", "N_data"), ("input_parameters", "[]"),
      ("output_parameters",
        "[\x7b\"name\": \"structure\", \"type\": \"int\", \"description\": \"d\"\x7d]"),
      ("qualification_array", "[]"), ("contribution_array", "[]")],
    leaf 2 "sw_resource" [("id", "r1"), ("name", "N"), ("data_structure", "[]")]], ""⟩

/-- Whether the clashing component's children are identified as `n_data` and `n`, its routine has
the one output `structure`, and its sketch declares some name twice. -/
def dataClashFound : Bool :=
  match (namedChildren dataClashComponent).mapM nameIdent,
      (dataClashComponent.childrenTagged "function").mapM outputIdents,
      sketchOf "cps" dataClashComponent with
  | .ok ns, .ok oss, .ok sk =>
    ns == ["n_data", "n"] && oss == [["structure"]] && !decide (sk.globals.map Global.ident).Nodup
  | _, _, _ => false

/-- Distinct identifiers and distinct output identifiers do not keep names apart: an affix joins
a routine's identifier to its output's the way it joins a resource's identifier to its data
structure. -/
theorem dataClashComponent_redeclares :
    DistinctlyNamed (namedChildren dataClashComponent) ∧
      (∀ f ∈ dataClashComponent.childrenTagged "function", ∀ os,
        outputIdents f = .ok os → os.Nodup) ∧
      ∃ sk, sketchOf "cps" dataClashComponent = .ok sk ∧
        ¬ (sk.globals.map Global.ident).Nodup := by
  have evaluated : dataClashFound = true := by decide +kernel
  unfold dataClashFound at evaluated
  split at evaluated
  · rename_i ns oss sk namesOk outputsOk made
    simp only [Bool.and_eq_true, beq_iff_eq, Bool.not_eq_true', decide_eq_false_iff_not]
      at evaluated
    obtain ⟨⟨rfl, rfl⟩, repeated⟩ := evaluated
    refine ⟨DistinctlyNamed.of_mapM namesOk (by decide), fun f member os listed => ?_,
      sk, made, repeated⟩
    obtain ⟨os', listedOutputs, listed'⟩ := Gen.exists_of_mem_mapM_left outputsOk member
    obtain rfl : os = os' := Except.ok.inj (listed.symm.trans listed')
    simp only [List.mem_cons, List.not_mem_nil, or_false] at listedOutputs
    subst listedOutputs
    decide
  · cases evaluated

end SketchGen.Sketch
