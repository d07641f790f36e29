import SketchGen.Proofs.Sketch.DocumentationSteps

/-! The tasks of twin components: goal flags and clients, topics and connections, callbacks,
publishing and receiving tasks, and the tasks' own bodies with their dependencies. Each is read
through ids, names and the codes of JSON items, which twins share, and documents itself inside
comments, so tidy twins give equal results or twins. -/

namespace SketchGen.Sketch

open SketchGen.Cpp SketchGen.Json SketchGen.Xml SketchGen.Text

theorem find?_rel {α β : Type} {R : α → β → Prop} {p : α → Bool} {q : β → Bool}
    (same : ∀ a b, R a b → q b = p a) {xs : List α} {ys : List β} (twins : List.Forall₂ R xs ys) :
    Option.Rel R (xs.find? p) (ys.find? q) := by
  induction twins with
  | nil => exact .none
  | @cons a b _ _ related _ ih =>
    by_cases hit : p a
    · simp [hit, same a b related, Option.Rel.some related]
    · simpa [List.find?_cons, hit, same a b related] using ih

theorem Gen.Agree.bind_eq {α β γ : Type} {S : β → γ → Prop} {x y : Gen α}
    (first : Gen.Agree (fun a a' => a' = a) x y) {f : α → Gen β} {g : α → Gen γ}
    (rest : ∀ a, Gen.Agree S (f a) (g a)) : Gen.Agree S (x >>= f) (y >>= g) :=
  first.bind fun a _ same => by
    rw [same]
    exact rest a

namespace DocTwin

variable {x x' : Element}

theorem get?_kept (twin : DocTwin x x') {name : String}
    (kept : name ∈ ["id", "source", "target", "operator", "interval_in_milliseconds",
      "comm_threadCPCId", "comm_threadId"]) : x'.get? name = x.get? name := by
  simp only [List.mem_cons, List.not_mem_nil, or_false] at kept
  rcases kept with rfl | rfl | rfl | rfl | rfl | rfl | rfl <;>
    exact twin.get?_eq (by simp [mem_docKeys]) rfl

theorem shown_kept (twin : DocTwin x x') {name : String}
    (kept : name ∈ ["id", "source", "target", "operator", "interval_in_milliseconds",
      "comm_threadCPCId", "comm_threadId"]) : shown x' name = shown x name := by
  unfold shown
  rw [twin.get?_kept kept]

theorem taskDeclOf_eq (twin : DocTwin x x') (notHardware : x.tag ≠ "hw_resource") :
    taskDeclOf x' = taskDeclOf x := by
  unfold taskDeclOf
  rw [twin.nameIdent_eq notHardware, twin.shown_kept (by simp)]

theorem sentTopicOf_eq {cpc cpc' : Element} (cpcTwin : DocTwin cpc cpc') (twin : DocTwin x x')
    (notHardware : x.tag ≠ "hw_resource") (systemId : String) :
    sentTopicOf systemId cpc' x' = sentTopicOf systemId cpc x := by
  unfold sentTopicOf identOf attrValue
  rw [twin.nameIdent_eq notHardware, twin.get?_kept (by simp), cpcTwin.get?_kept (by simp)]

theorem receivedTopicOf_eq (twin : DocTwin x x') (notHardware : x.tag ≠ "hw_resource")
    (systemId : String) : receivedTopicOf systemId x' = receivedTopicOf systemId x := by
  unfold receivedTopicOf identOf attrValue
  rw [twin.nameIdent_eq notHardware, twin.get?_kept (by simp), twin.get?_kept (by simp)]

theorem clientOf_eq {cpc cpc' : Element} (cpcTwin : DocTwin cpc cpc')
    (component : cpc.tag ≠ "hw_resource") (twin : DocTwin x x')
    (notHardware : x.tag ≠ "hw_resource") : clientOf cpc' x' = clientOf cpc x := by
  unfold clientOf identOf attrValue
  rw [twin.nameIdent_eq notHardware, cpcTwin.nameIdent_eq component, cpcTwin.get?_kept (by simp)]

end DocTwin

/-! ### Publishers and subscribers -/

namespace TidyTwin

variable {x x' : Element}

theorem dependumFields_agree (twin : TidyTwin x x') :
    Gen.Agree (List.Forall₂ (ItemTwin ["description"] (codeKeys "data_structure")))
      (dependumFields x) (dependumFields x') :=
  (twin.jsonOf_agree rfl).bind fun _ _ fields => fields.items_agree

theorem fieldIdents_agree (twin : TidyTwin x x') :
    Gen.Agree (fun fs fs' => fs' = fs) (dependumFields x >>= fun fields => fields.mapM fieldIdent)
      (dependumFields x' >>= fun fields => fields.mapM fieldIdent) :=
  twin.dependumFields_agree.bind fun _ _ fields => Gen.Agree.mapM_eq fields fun _ _ _ field =>
    Gen.Agree.of_eq (by unfold fieldIdent Value.get; rw [field.getOr_eq (by decide)])

theorem callbackOf_agree (twin : TidyTwin x x') (notHardware : x.tag ≠ "hw_resource") :
    Gen.Agree Callback.Twin (callbackOf x) (callbackOf x') := by
  unfold callbackOf
  refine (twin.nameIdent_agree notHardware).bind fun n n' named => ?_
  rw [← bind_assoc, ← bind_assoc]
  refine twin.fieldIdents_agree.bind fun fs fs' fields => ?_
  exact (twin.modeSwitchOf_agree notHardware).bind fun _ _ switched =>
    Gen.Agree.pure ⟨named.1, fields, switched⟩

theorem publisher_wording :
    ∀ t ∈ [ThreadRole.publisher.title, ThreadRole.publisher.duty, ThreadRole.publisher.handover,
      ThreadRole.publisher.exchange, ThreadRole.publisher.purpose], CommentSafe t := by
  decide

theorem subscriber_wording :
    ∀ t ∈ [ThreadRole.subscriber.title, ThreadRole.subscriber.duty,
      ThreadRole.subscriber.handover, ThreadRole.subscriber.exchange,
      ThreadRole.subscriber.purpose], CommentSafe t := by
  decide

theorem publishTaskOf_agree (twin : TidyTwin x x') (notHardware : x.tag ≠ "hw_resource")
    (cpc cpc' : Element) : Gen.Agree PublishTask.Twin (publishTaskOf cpc x) (publishTaskOf cpc' x') := by
  have titled : shown x' "name" = shown x "name" :=
    twin.twin.shown_eq (name_not_mem_docKeys notHardware) rfl
  unfold publishTaskOf
  dsimp only
  refine (threadNotes_agree publisher_wording twin notHardware cpc cpc').bind
    fun notes notes' noted => ?_
  rw [← bind_assoc, ← bind_assoc]
  refine twin.fieldIdents_agree.bind fun fs fs' fields => ?_
  refine (twin.modeSwitchOf_agree notHardware).bind fun _ _ switched => ?_
  exact (twin.nameIdent_agree notHardware).bind fun _ _ named =>
    Gen.Agree.pure ⟨named.1, titled, twin.twin.shown_kept (by simp), fields, noted.reads, switched⟩

theorem receiveTaskOf_agree (twin : TidyTwin x x') (notHardware : x.tag ≠ "hw_resource")
    (cpc cpc' : Element) : Gen.Agree ReceiveTask.Twin (receiveTaskOf cpc x) (receiveTaskOf cpc' x') := by
  unfold receiveTaskOf
  dsimp only
  refine (twin.nameIdent_agree notHardware).bind fun _ _ named => ?_
  exact (threadNotes_agree subscriber_wording twin notHardware cpc cpc').bind fun _ _ noted =>
    Gen.Agree.pure ⟨named.1, twin.twin.shown_kept (by simp), noted.reads_indented⟩

theorem markedListNote_agree (twin : TidyTwin x x') {key : String} (listed : key ∈ listKeys) :
    Gen.Agree (fun n n' => CommentSafe n ∧ CommentSafe n')
      (markedListNote (x.get? key)) (markedListNote (x'.get? key)) :=
  fun _ _ made made' => ⟨twin.tidy.markedListNote_safe listed made,
    twin.tidy'.markedListNote_safe listed made'⟩

end TidyTwin

theorem optionRel_cases {α β : Type} {R : α → β → Prop} {o : Option α} {o' : Option β}
    (rel : Option.Rel R o o') : (o = none ∧ o' = none) ∨ ∃ a a', o = some a ∧ o' = some a' ∧ R a a' := by
  cases rel with
  | none => exact .inl ⟨rfl, rfl⟩
  | some related => exact .inr ⟨_, _, rfl, rfl, related⟩

theorem ItemTwin.argumentOf_agree {codes : List String} {p p' : Value}
    (item : ItemTwin ["description"] codes p p') :
    Gen.Agree (fun a a' => a' = a) (argumentOf p) (argumentOf p') :=
  Gen.Agree.of_eq (by unfold argumentOf; rw [item.member_eq (by decide), item.member_eq (by decide)])

/-! ### Tasks -/

section Component

variable {cpc cpc' : Element} (twin : DocTwin cpc cpc') (tidy : ∀ x ∈ cpc.subtree, Tidy x)
  (tidy' : ∀ x ∈ cpc'.subtree, Tidy x)

include twin tidy tidy'

theorem dependencyOf_agree {r r' : Element} (relationTwin : DocTwin r r') :
    Gen.Agree (fun d d' => d' = d) (dependencyOf cpc r) (dependencyOf cpc' r') := by
  have identified : ∀ {x x' : Element}, TidyTwin x x' ∧ x.tag ≠ "hw_resource" →
      (x'.get? "id" == r.get? "source") = (x.get? "id" == r.get? "source") := fun owner => by
    rw [owner.1.twin.get?_kept (by simp)]
  have threads := find?_rel (fun _ _ owner => identified owner)
    (twin.ownersTagged tidy tidy' (by decide : "thread" ≠ "hw_resource"))
  have routines := find?_rel (fun _ _ owner => identified owner)
    (twin.ownersTagged tidy tidy' (by decide : "function" ≠ "hw_resource"))
  unfold dependencyOf tasks
  dsimp only
  rw [relationTwin.get?_kept (by simp)]
  rcases optionRel_cases threads with ⟨found, found'⟩ | ⟨t, t', found, found', threadTwin⟩
  · rw [found, found']
    dsimp only
    rcases optionRel_cases routines with ⟨found, found'⟩ | ⟨f, f', found, found', routineTwin⟩
    · rw [found, found']
      exact fun _ _ made => by cases made
    · rw [found, found']
      dsimp only
      refine (routineTwin.1.nameIdent_agree routineTwin.2).bind fun name _ named => ?_
      refine (routineTwin.1.jsonOr_agree rfl).bind fun _ _ inputs => ?_
      refine inputs.items_agree.bind fun _ _ params => ?_
      refine (Gen.Agree.mapM_eq params fun _ _ _ param => param.argumentOf_agree).bind
        fun _ _ args => Gen.Agree.pure ?_
      rw [named.1, args]
  · rw [found, found']
    dsimp only
    exact (threadTwin.1.nameIdent_agree threadTwin.2).bind fun _ _ named =>
      Gen.Agree.pure (by rw [named.1])

theorem relationsTo_twin {thread thread' : Element} (threadTwin : DocTwin thread thread') :
    List.Forall₂ (fun r r' => TidyTwin r r' ∧ r.tag ≠ "hw_resource")
      (relationsTo thread cpc) (relationsTo thread' cpc') := by
  unfold relationsTo
  refine List.rel_filter ?_ (twin.ownersTagged tidy tidy' (by decide : "relation" ≠ "hw_resource"))
  intro r r' relation
  dsimp only
  rw [relation.1.twin.get?_kept (by simp), threadTwin.get?_kept (by simp)]

theorem dependenciesOf_agree {thread thread' : Element} (threadTwin : TidyTwin thread thread')
    (notHardware : thread.tag ≠ "hw_resource") :
    Gen.Agree (fun d d' => d' = d) (dependenciesOf thread cpc) (dependenciesOf thread' cpc') := by
  have relations := relationsTo_twin twin tidy tidy' threadTwin.twin
  unfold dependenciesOf
  refine (threadTwin.nameIdent_agree notHardware).bind fun name _ named => ?_
  rw [named.1]
  generalize relationsTo thread cpc = rs at relations ⊢
  generalize relationsTo thread' cpc' = rs' at relations ⊢
  cases relations with
  | nil => exact Gen.Agree.pure rfl
  | @cons first first' rest rest' firstTwin restTwin =>
    dsimp only
    rw [firstTwin.1.twin.get?_kept (by simp)]
    exact (Gen.Agree.mapM_eq (R := fun r r' => TidyTwin r r' ∧ r.tag ≠ "hw_resource")
      (.cons firstTwin restTwin) fun _ _ _ relation =>
      dependencyOf_agree twin tidy tidy' relation.1.twin).bind fun _ _ terms =>
        Gen.Agree.pure (by rw [terms])

theorem taskBodyOf_agree {thread thread' : Element} (threadTwin : TidyTwin thread thread')
    (notHardware : thread.tag ≠ "hw_resource") :
    Gen.Agree TaskBody.Twin (taskBodyOf cpc thread) (taskBodyOf cpc' thread') := by
  unfold taskBodyOf
  refine (threadTwin.nameIdent_agree notHardware).bind fun _ _ named => ?_
  refine (threadTwin.markedListNote_agree (by simp [listKeys])).bind fun _ _ qualified => ?_
  refine (threadTwin.markedListNote_agree (by simp [listKeys])).bind fun _ _ contributed => ?_
  refine (dependenciesOf_agree twin tidy tidy' threadTwin notHardware).bind fun _ _ logic => ?_
  exact (threadTwin.modeSwitchOf_agree notHardware).bind fun _ _ switched =>
    Gen.Agree.pure ⟨named.1, threadTwin.twin.shown_kept (by simp),
      threadTwin.twin.shown_kept (by simp), logic, named.2,
      threadTwin.tidy.shown_plain (by simp) (by simp [mem_docKeys]), threadTwin.tidy.shown_safe _,
      threadTwin.tidy'.shown_safe _, qualified.1, qualified.2, contributed.1, contributed.2,
      switched⟩

/-! ### The sections of the tasks -/

theorem nameIdents_agree {tag : String} (notHardware : tag ≠ "hw_resource") :
    Gen.Agree (fun ns ns' => ns' = ns) ((cpc.childrenTagged tag).mapM nameIdent)
      ((cpc'.childrenTagged tag).mapM nameIdent) :=
  Gen.Agree.mapM_eq (twin.ownersTagged tidy tidy' notHardware) fun _ _ _ owner =>
    Gen.Agree.of_eq (owner.1.twin.nameIdent_eq owner.2)

theorem taskDeclsOf_agree :
    Gen.Agree (fun ds ds' => ds' = ds) (taskDeclsOf (tasks cpc)) (taskDeclsOf (tasks cpc')) :=
  Gen.Agree.mapM_eq (twin.ownersTagged tidy tidy' (by decide : "thread" ≠ "hw_resource"))
    fun _ _ _ owner => Gen.Agree.of_eq (owner.1.twin.taskDeclOf_eq owner.2)

theorem topicsOf_agree (systemId : String) :
    Gen.Agree (fun ts ts' => ts' = ts) (topicsOf systemId cpc) (topicsOf systemId cpc') := by
  unfold topicsOf publishers subscribers
  refine Gen.Agree.bind_eq (Gen.Agree.mapM_eq
    (twin.ownersTagged tidy tidy' (by decide : "commThread" ≠ "hw_resource")) fun _ _ _ owner =>
      Gen.Agree.of_eq (DocTwin.sentTopicOf_eq twin owner.1.twin owner.2 systemId)) fun _ => ?_
  exact Gen.Agree.bind_eq (Gen.Agree.mapM_eq
    (twin.ownersTagged tidy tidy' (by decide : "listenerThread" ≠ "hw_resource")) fun _ _ _ owner =>
      Gen.Agree.of_eq (owner.1.twin.receivedTopicOf_eq owner.2 systemId)) fun _ => Gen.Agree.pure rfl

theorem clientsOf_agree (component : cpc.tag ≠ "hw_resource") :
    Gen.Agree (fun cs cs' => cs' = cs) (clientsOf cpc) (clientsOf cpc') := by
  unfold clientsOf subscribers publishers
  exact Gen.Agree.mapM_eq (List.rel_append
    (twin.ownersTagged tidy tidy' (by decide : "listenerThread" ≠ "hw_resource"))
    (twin.ownersTagged tidy tidy' (by decide : "commThread" ≠ "hw_resource"))) fun _ _ _ owner =>
      Gen.Agree.of_eq (DocTwin.clientOf_eq twin component owner.1.twin owner.2)

theorem connectionsOf_agree :
    Gen.Agree (fun cs cs' => cs' = cs) (connectionsOf cpc) (connectionsOf cpc') := by
  unfold connectionsOf publishers subscribers
  exact Gen.Agree.bind_eq (nameIdents_agree twin tidy tidy' (by decide)) fun _ =>
    Gen.Agree.bind_eq (nameIdents_agree twin tidy tidy' (by decide)) fun _ => Gen.Agree.pure rfl

theorem creationNamesOf_agree :
    Gen.Agree (fun ns ns' => ns' = ns) (creationNamesOf (tasks cpc) (publishers cpc) (subscribers cpc))
      (creationNamesOf (tasks cpc') (publishers cpc') (subscribers cpc')) := by
  unfold creationNamesOf tasks publishers subscribers
  exact Gen.Agree.bind_eq (nameIdents_agree twin tidy tidy' (by decide)) fun _ =>
    Gen.Agree.bind_eq (nameIdents_agree twin tidy tidy' (by decide)) fun _ =>
      Gen.Agree.bind_eq (nameIdents_agree twin tidy tidy' (by decide)) fun _ => Gen.Agree.pure rfl

theorem callbacksOf_agree :
    Gen.Agree (List.Forall₂ Callback.Twin) (callbacksOf cpc) (callbacksOf cpc') :=
  Gen.Agree.mapM (twin.ownersTagged tidy tidy' (by decide : "listenerThread" ≠ "hw_resource"))
    fun _ _ _ owner => owner.1.callbackOf_agree owner.2

theorem publishTasksOf_agree :
    Gen.Agree (List.Forall₂ PublishTask.Twin) (publishTasksOf cpc) (publishTasksOf cpc') :=
  Gen.Agree.mapM (twin.ownersTagged tidy tidy' (by decide : "commThread" ≠ "hw_resource"))
    fun _ _ _ owner => owner.1.publishTaskOf_agree owner.2 cpc cpc'

theorem receiveTasksOf_agree :
    Gen.Agree (List.Forall₂ ReceiveTask.Twin) (receiveTasksOf cpc) (receiveTasksOf cpc') :=
  Gen.Agree.mapM (twin.ownersTagged tidy tidy' (by decide : "listenerThread" ≠ "hw_resource"))
    fun _ _ _ owner => owner.1.receiveTaskOf_agree owner.2 cpc cpc'

theorem taskBodiesOf_agree :
    Gen.Agree (List.Forall₂ TaskBody.Twin) (taskBodiesOf (tasks cpc) cpc)
      (taskBodiesOf (tasks cpc') cpc') :=
  Gen.Agree.mapM (twin.ownersTagged tidy tidy' (by decide : "thread" ≠ "hw_resource"))
    fun _ _ _ owner => taskBodyOf_agree twin tidy tidy' owner.1 owner.2

end Component

end SketchGen.Sketch
