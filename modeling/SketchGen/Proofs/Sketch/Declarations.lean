import SketchGen.Proofs.Sketch.Layout
import SketchGen.Proofs.Sketch.Sections

namespace SketchGen.Sketch

open SketchGen.Json SketchGen.Xml SketchGen.Text

/-! Declaration and use of a sketch's symbols. A sketch declares, for each task of its
component, the task's goal flag, handle and function; for each publisher and subscriber, its
client id, network client, MQTT client and topic and the handle and function of its publishing
or receiving task; for each subscriber also its callback. Every symbol the sketch uses where it
connects clients and creates tasks in `setup()`, in its publishing and receiving tasks and in
the dependency logic of its tasks is one of these, or a routine the sketch defines. Each
declaration and each use is made by a different section from the identifier of the child it
belongs to; the sections agree because each traversal pairs a child with its item. -/

/-- The kinds of children of a component that a sketch declares symbols for. -/
inductive Role where
  | task
  | publisher
  | subscriber
deriving DecidableEq, Repr

def Role.children : Role → Element → List Element
  | .task => tasks
  | .publisher => publishers
  | .subscriber => subscribers

def Role.symbols : Role → String → List Symbol
  | .task, n => [.goalFlag n, .taskHandle n, .taskFunction n]
  | .publisher, n =>
    [.clientId n, .wifiClient n, .mqttClient n, .topic n,
      .taskHandle (publishTaskName n), .taskFunction (publishTaskName n)]
  | .subscriber, n =>
    [.clientId n, .wifiClient n, .mqttClient n, .topic n,
      .taskHandle (receiveTaskName n), .taskFunction (receiveTaskName n), .callback n]

def ChildSymbol (cpc : Element) (s : Symbol) : Prop :=
  ∃ role : Role, ∃ c ∈ role.children cpc, ∃ n, nameIdent c = .ok n ∧ s ∈ role.symbols n

/-! ### Uses -/

def Dependencies.uses (d : Dependencies) : List Symbol :=
  .goalFlag d.owner :: d.terms.map Term.symbol

/-- The symbols `setup()` names where it connects the clients: each client, its id and its
topic, and for a subscriber its callback. -/
def Connections.uses (c : Connections) : List Symbol :=
  c.senders.flatMap (fun n => [.mqttClient n, .clientId n, .topic n]) ++
    c.receivers.flatMap (fun n => [.mqttClient n, .callback n, .clientId n, .topic n])

def creationUses (name : String) : List Symbol := [.taskFunction name, .taskHandle name]

def PublishTask.uses (pt : PublishTask) : List Symbol := [.mqttClient pt.owner, .topic pt.owner]

def ReceiveTask.uses (rt : ReceiveTask) : List Symbol :=
  [.mqttClient rt.owner, .clientId rt.owner, .topic rt.owner]

/-- The symbols a sketch uses: in `setup()`, in its publishing and receiving tasks, and in the
dependency logic of its tasks. -/
def Program.uses (sk : Program) : List Symbol :=
  sk.connections.uses ++ sk.creations.flatMap creationUses ++
    sk.publishTasks.flatMap PublishTask.uses ++ sk.receiveTasks.flatMap ReceiveTask.uses ++
    sk.taskBodies.flatMap (·.logic.uses)

/-! ### Each used symbol is named where it is used -/

theorem Symbol.occurs_ident (s : Symbol) : Occurs s.ident s.declaration := by
  cases s <;> unfold Symbol.declaration <;>
    repeat (first | with_reducible exact occurs_append_right_self _ _ |
      with_reducible apply Occurs.append_left)

theorem senderLines_names {n : String} {s : Symbol}
    (named : s = .mqttClient n ∨ s = .clientId n ∨ s = .topic n) :
    ∃ line ∈ senderLines n, Occurs s.ident line := by
  dsimp only [senderLines]
  refine ⟨_, List.mem_cons_of_mem _ List.mem_cons_self, ?_⟩
  rcases named with rfl | rfl | rfl <;>
    repeat (first | with_reducible exact occurs_append_right_self _ _ |
      with_reducible apply Occurs.append_left)

theorem receiverLines_names {n : String} {s : Symbol}
    (named : s = .mqttClient n ∨ s = .callback n ∨ s = .clientId n ∨ s = .topic n) :
    ∃ line ∈ receiverLines n, Occurs s.ident line := by
  dsimp only [receiverLines]
  -- the client and the callback are set up on the first line, and all but the callback are
  -- arguments of `connectToMQTT` on the second
  rcases named with rfl | rfl | rfl | rfl
  · refine ⟨_, List.mem_cons_self, ?_⟩
    repeat (first | with_reducible exact occurs_append_right_self _ _ |
      with_reducible apply Occurs.append_left)
  · refine ⟨_, List.mem_cons_self, ?_⟩
    repeat (first | with_reducible exact occurs_append_right_self _ _ |
      with_reducible apply Occurs.append_left)
  all_goals
    refine ⟨_, List.mem_cons_of_mem _ List.mem_cons_self, ?_⟩
    repeat (first | with_reducible exact occurs_append_right_self _ _ |
      with_reducible apply Occurs.append_left)

theorem Connections.occurs_uses (c : Connections) : ∀ s ∈ c.uses, Occurs s.ident c.text := by
  intro s used
  simp only [Connections.uses, List.mem_append, List.mem_flatMap, List.mem_cons,
    List.not_mem_nil, or_false] at used
  rcases used with ⟨n, sender, named⟩ | ⟨n, receiver, named⟩
  · obtain ⟨line, written, occurs⟩ := senderLines_names named
    exact occurs.trans (occurs_joinLines (List.mem_append_left _
      (mem_titled _ (List.mem_flatMap.mpr ⟨n, sender, written⟩))))
  · obtain ⟨line, written, occurs⟩ := receiverLines_names named
    exact occurs.trans (occurs_joinLines (List.mem_append_right _
      (mem_titled _ (List.mem_flatMap.mpr ⟨n, receiver, written⟩))))

theorem occurs_creationUses (name : String) :
    ∀ s ∈ creationUses name, Occurs s.ident (taskCreation name) := by
  intro s used
  simp only [creationUses, List.mem_cons, List.not_mem_nil, or_false] at used
  dsimp only [taskCreation]
  rcases used with rfl | rfl <;>
    repeat (first | with_reducible exact occurs_append_right_self _ _ |
      with_reducible apply Occurs.append_left)

theorem PublishTask.occurs_uses (pt : PublishTask) : ∀ s ∈ pt.uses, Occurs s.ident pt.text := by
  intro s used
  simp only [PublishTask.uses, List.mem_cons, List.not_mem_nil, or_false] at used
  dsimp only [PublishTask.text]
  rcases used with rfl | rfl <;>
    repeat (first | with_reducible exact occurs_append_right_self _ _ |
      with_reducible apply Occurs.append_left)

theorem ReceiveTask.occurs_uses (rt : ReceiveTask) : ∀ s ∈ rt.uses, Occurs s.ident rt.text := by
  intro s used
  simp only [ReceiveTask.uses, List.mem_cons, List.not_mem_nil, or_false] at used
  dsimp only [ReceiveTask.text]
  rcases used with rfl | rfl | rfl <;>
    repeat (first | with_reducible exact occurs_append_right_self _ _ |
      with_reducible apply Occurs.append_left)

theorem Term.occurs_symbol (t : Term) : Occurs t.symbol.ident t.text := by
  cases t with
  | flag task => exact Occurs.refl _
  | call routine args =>
    dsimp only [Term.text]
    repeat (first | with_reducible exact occurs_append_left_self _ _ |
      with_reducible apply Occurs.append_left)

theorem Dependencies.occurs_uses (d : Dependencies) : ∀ s ∈ d.uses, Occurs s.ident d.text := by
  intro s used
  simp only [Dependencies.uses, List.mem_cons, List.mem_map] at used
  cases d with
  | toggle owner =>
    rcases used with rfl | ⟨t, none, -⟩
    · dsimp only [Dependencies.text, Dependencies.owner]
      repeat (first | with_reducible exact occurs_append_left_self _ _ |
        with_reducible apply Occurs.append_left)
    · cases none
  | joined owner disjunction terms =>
    rcases used with rfl | ⟨t, listed, rfl⟩ <;> dsimp only [Dependencies.text, Dependencies.owner]
    · repeat (first | with_reducible exact occurs_append_right_self _ _ |
        with_reducible apply Occurs.append_left)
    · -- each term is read where the goal flag is set
      apply Occurs.append_left
      apply Occurs.append_right
      exact t.occurs_symbol.trans (occurs_intercalate_of_mem _ (List.mem_map_of_mem listed))

section Generated

variable {systemId : String} {cpc : Element} {sk : Program}

/-! ### Every child's symbols are declared -/

theorem task_symbols_declared (generated : Generated systemId cpc sk) {t : Element}
    (member : t ∈ tasks cpc) :
    ∃ n, nameIdent t = .ok n ∧ ∀ s ∈ Role.task.symbols n, sk.Declares s := by
  obtain ⟨d, goal, declared⟩ := Gen.exists_of_mem_mapM_left generated.goals member
  obtain ⟨tb, body, made⟩ := Gen.exists_of_mem_mapM_left generated.taskBodies member
  have named := taskDeclOf_owner declared
  have sameOwner : tb.owner = d.owner :=
    Except.ok.inj ((taskBodyOf_spec made).1.symm.trans named)
  refine ⟨d.owner, named, ?_⟩
  simp only [Role.symbols, List.forall_mem_cons, List.not_mem_nil, IsEmpty.forall_iff,
    implies_true, and_true]
  exact ⟨(declares_of_goal goal).1, (declares_of_goal goal).2,
    sameOwner ▸ declares_of_taskBody body⟩

theorem publisher_symbols_declared (generated : Generated systemId cpc sk) {p : Element}
    (member : p ∈ publishers cpc) :
    ∃ n, nameIdent p = .ok n ∧ ∀ s ∈ Role.publisher.symbols n, sk.Declares s := by
  obtain ⟨n, handle, named⟩ := Gen.exists_of_mem_mapM_left generated.sendHandles member
  obtain ⟨c, client, connected⟩ :=
    Gen.exists_of_mem_mapM_left generated.clients (List.mem_append_right _ member)
  obtain ⟨t, topic, addressed⟩ :=
    Gen.exists_of_mem_mapM_left (topicsOf_spec generated.topics).1 member
  obtain ⟨pt, task, published⟩ := Gen.exists_of_mem_mapM_left generated.publishTasks member
  -- every section names the publisher by its one identifier
  have clientOwner : c.owner = n := Except.ok.inj ((clientOf_owner connected).symm.trans named)
  have topicOwner : t.owner = n := Except.ok.inj ((sentTopicOf_owner addressed).symm.trans named)
  have taskOwner : pt.owner = n :=
    Except.ok.inj ((publishTaskOf_spec published).1.symm.trans named)
  obtain ⟨clientId, wifi, mqtt⟩ := declares_of_client client
  rw [clientOwner] at clientId wifi mqtt
  refine ⟨n, named, ?_⟩
  simp only [Role.symbols, List.forall_mem_cons, List.not_mem_nil, IsEmpty.forall_iff,
    implies_true, and_true]
  exact ⟨clientId, wifi, mqtt,
    topicOwner ▸ declares_of_sent_topic topic, declares_of_sendHandle handle,
    taskOwner ▸ declares_of_publishTask task⟩

theorem subscriber_symbols_declared (generated : Generated systemId cpc sk) {q : Element}
    (member : q ∈ subscribers cpc) :
    ∃ n, nameIdent q = .ok n ∧ ∀ s ∈ Role.subscriber.symbols n, sk.Declares s := by
  obtain ⟨n, handle, named⟩ := Gen.exists_of_mem_mapM_left generated.receiveHandles member
  obtain ⟨c, client, connected⟩ :=
    Gen.exists_of_mem_mapM_left generated.clients (List.mem_append_left _ member)
  obtain ⟨t, topic, addressed⟩ :=
    Gen.exists_of_mem_mapM_left (topicsOf_spec generated.topics).2 member
  obtain ⟨rt, task, received⟩ := Gen.exists_of_mem_mapM_left generated.receiveTasks member
  obtain ⟨cb, callback, called⟩ := Gen.exists_of_mem_mapM_left generated.callbacks member
  have clientOwner : c.owner = n := Except.ok.inj ((clientOf_owner connected).symm.trans named)
  have topicOwner : t.owner = n :=
    Except.ok.inj ((receivedTopicOf_owner addressed).symm.trans named)
  have taskOwner : rt.owner = n := Except.ok.inj ((receiveTaskOf_owner received).symm.trans named)
  have callbackOwner : cb.owner = n :=
    Except.ok.inj ((callbackOf_spec called).1.symm.trans named)
  obtain ⟨clientId, wifi, mqtt⟩ := declares_of_client client
  rw [clientOwner] at clientId wifi mqtt
  refine ⟨n, named, ?_⟩
  simp only [Role.symbols, List.forall_mem_cons, List.not_mem_nil, IsEmpty.forall_iff,
    implies_true, and_true]
  exact ⟨clientId, wifi, mqtt,
    topicOwner ▸ declares_of_received_topic topic, declares_of_receiveHandle handle,
    taskOwner ▸ declares_of_receiveTask task, callbackOwner ▸ declares_of_callback callback⟩

theorem child_symbols_declared (generated : Generated systemId cpc sk) (role : Role) {c : Element}
    (member : c ∈ role.children cpc) :
    ∃ n, nameIdent c = .ok n ∧ ∀ s ∈ role.symbols n, sk.Declares s := by
  cases role with
  | task => exact task_symbols_declared generated member
  | publisher => exact publisher_symbols_declared generated member
  | subscriber => exact subscriber_symbols_declared generated member

theorem declares_of_childSymbol (generated : Generated systemId cpc sk) {s : Symbol}
    (child : ChildSymbol cpc s) : sk.Declares s := by
  obtain ⟨role, c, member, n, named, listed⟩ := child
  obtain ⟨n', named', declared⟩ := child_symbols_declared generated role member
  obtain rfl : n = n' := Except.ok.inj (named.symm.trans named')
  exact declared s listed

/-! ### Every used symbol is a child's or a routine's -/

theorem connection_uses_childSymbol (generated : Generated systemId cpc sk) {s : Symbol}
    (used : s ∈ sk.connections.uses) : ChildSymbol cpc s := by
  obtain ⟨sendersOk, receiversOk⟩ := connectionsOf_spec generated.connections
  simp only [Connections.uses, List.mem_append, List.mem_flatMap] at used
  rcases used with ⟨n, sender, listed⟩ | ⟨n, receiver, listed⟩
  · obtain ⟨p, member, named⟩ := Gen.exists_of_mem_mapM sendersOk sender
    refine ⟨.publisher, p, member, n, named, ?_⟩
    simp only [List.mem_cons, List.not_mem_nil, or_false] at listed
    rcases listed with rfl | rfl | rfl <;> simp [Role.symbols]
  · obtain ⟨q, member, named⟩ := Gen.exists_of_mem_mapM receiversOk receiver
    refine ⟨.subscriber, q, member, n, named, ?_⟩
    simp only [List.mem_cons, List.not_mem_nil, or_false] at listed
    rcases listed with rfl | rfl | rfl | rfl <;> simp [Role.symbols]

theorem creation_uses_childSymbol (generated : Generated systemId cpc sk) {s : Symbol}
    (used : s ∈ sk.creations.flatMap creationUses) : ChildSymbol cpc s := by
  obtain ⟨m, created, listed⟩ := List.mem_flatMap.mp used
  simp only [creationUses, List.mem_cons, List.not_mem_nil, or_false] at listed
  rcases mem_creationNamesOf generated.creations created with
    ⟨t, member, named⟩ | ⟨p, member, n, named, rfl⟩ | ⟨q, member, n, named, rfl⟩
  · exact ⟨.task, t, member, m, named, by rcases listed with rfl | rfl <;> simp [Role.symbols]⟩
  · exact ⟨.publisher, p, member, n, named,
      by rcases listed with rfl | rfl <;> simp [Role.symbols]⟩
  · exact ⟨.subscriber, q, member, n, named,
      by rcases listed with rfl | rfl <;> simp [Role.symbols]⟩

theorem publishTask_uses_childSymbol (generated : Generated systemId cpc sk) {s : Symbol}
    (used : s ∈ sk.publishTasks.flatMap PublishTask.uses) : ChildSymbol cpc s := by
  obtain ⟨pt, task, listed⟩ := List.mem_flatMap.mp used
  obtain ⟨p, member, published⟩ := Gen.exists_of_mem_mapM generated.publishTasks task
  refine ⟨.publisher, p, member, pt.owner, (publishTaskOf_spec published).1, ?_⟩
  simp only [PublishTask.uses, List.mem_cons, List.not_mem_nil, or_false] at listed
  rcases listed with rfl | rfl <;> simp [Role.symbols]

theorem receiveTask_uses_childSymbol (generated : Generated systemId cpc sk) {s : Symbol}
    (used : s ∈ sk.receiveTasks.flatMap ReceiveTask.uses) : ChildSymbol cpc s := by
  obtain ⟨rt, task, listed⟩ := List.mem_flatMap.mp used
  obtain ⟨q, member, received⟩ := Gen.exists_of_mem_mapM generated.receiveTasks task
  refine ⟨.subscriber, q, member, rt.owner, receiveTaskOf_owner received, ?_⟩
  simp only [ReceiveTask.uses, List.mem_cons, List.not_mem_nil, or_false] at listed
  rcases listed with rfl | rfl | rfl <;> simp [Role.symbols]

theorem logic_uses_childSymbol_or_routine (generated : Generated systemId cpc sk) {s : Symbol}
    (used : s ∈ sk.taskBodies.flatMap (·.logic.uses)) :
    ChildSymbol cpc s ∨ ∃ f, s = .routine f ∧ sk.Declares s := by
  obtain ⟨tb, body, listed⟩ := List.mem_flatMap.mp used
  obtain ⟨t, member, made⟩ := Gen.exists_of_mem_mapM generated.taskBodies body
  obtain ⟨owned, termsOk⟩ := dependenciesOf_spec (taskBodyOf_spec made).2.1
  simp only [Dependencies.uses, List.mem_cons, List.mem_map] at listed
  rcases listed with rfl | ⟨term, listedTerm, rfl⟩
  · exact .inl ⟨.task, t, member, _, owned, by simp [Role.symbols]⟩
  · -- each term was read from one relation that leads to the task
    obtain ⟨relation, -, read⟩ := Gen.exists_of_mem_mapM termsOk listedTerm
    cases term with
    | flag task =>
      obtain ⟨source, sourceMember, named⟩ := dependencyOf_flag read
      exact .inl ⟨.task, source, sourceMember, task, named, by simp [Term.symbol, Role.symbols]⟩
    | call routine args =>
      obtain ⟨fn, fnMember, named, -⟩ := dependencyOf_call read
      obtain ⟨r, defined, compiled⟩ := Gen.exists_of_mem_mapM_left generated.routines fnMember
      have sameName : r.name = routine :=
        Except.ok.inj ((routineOf_spec compiled).1.symm.trans named)
      exact .inr ⟨routine, rfl, sameName ▸ declares_of_routine defined⟩

theorem uses_childSymbol_or_routine (generated : Generated systemId cpc sk) {s : Symbol}
    (used : s ∈ sk.uses) : ChildSymbol cpc s ∨ ∃ f, s = .routine f ∧ sk.Declares s := by
  simp only [Program.uses, List.mem_append] at used
  rcases used with (((connected | created) | published) | received) | evaluated
  · exact .inl (connection_uses_childSymbol generated connected)
  · exact .inl (creation_uses_childSymbol generated created)
  · exact .inl (publishTask_uses_childSymbol generated published)
  · exact .inl (receiveTask_uses_childSymbol generated received)
  · exact logic_uses_childSymbol_or_routine generated evaluated

theorem used_symbols_declared (generated : Generated systemId cpc sk) {s : Symbol}
    (used : s ∈ sk.uses) : sk.Declares s := by
  rcases uses_childSymbol_or_routine generated used with child | ⟨-, -, declared⟩
  · exact declares_of_childSymbol generated child
  · exact declared

end Generated

/-- A generated sketch declares the symbols of each of its component's tasks, publishers and
subscribers, and every symbol it uses is one of these or a routine it defines. -/
theorem sketch_declares_used_symbols {systemId : String} {cpc : Element} {sk : Program}
    (h : sketchOf systemId cpc = .ok sk) :
    (∀ role : Role, ∀ c ∈ role.children cpc,
      ∃ n, nameIdent c = .ok n ∧ ∀ s ∈ role.symbols n, sk.Declares s) ∧
    ∀ s ∈ sk.uses, ChildSymbol cpc s ∨ ∃ f, s = .routine f ∧ sk.Declares s := by
  have generated := generated_of_sketchOf h
  exact ⟨fun role _ member => child_symbols_declared generated role member,
    fun _ used => uses_childSymbol_or_routine generated used⟩

theorem sampleComponent_declares_used_symbols :
    ∃ sk, sketchOf "sys" sampleComponent = .ok sk ∧
      (∀ role : Role, ∀ c ∈ role.children sampleComponent,
        ∃ n, nameIdent c = .ok n ∧ ∀ s ∈ role.symbols n, sk.Declares s) ∧
      ∀ s ∈ sk.uses, ChildSymbol sampleComponent s ∨ ∃ f, s = .routine f ∧ sk.Declares s := by
  obtain ⟨sk, h⟩ := sampleComponent_generated
  exact ⟨sk, h, sketch_declares_used_symbols h⟩

end SketchGen.Sketch
