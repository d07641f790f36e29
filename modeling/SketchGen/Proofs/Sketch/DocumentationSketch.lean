import SketchGen.Proofs.Sketch.DocumentationTasks

/-! Documentation is inert. Run on two components alike but for their documentation, both tidy,
the generator makes routines that are twins, and with them sketches that are twins: equal once
their line comments are removed. Tidiness is needed: a qualification list with a second entry
puts it on a line of its own, outside the comment its first entry opens. -/

namespace SketchGen.Sketch

open SketchGen.Cpp SketchGen.Json SketchGen.Xml SketchGen.Xml.Query SketchGen.Text

/-! ### Comments of routines -/

theorem ItemTwin.paramNote_agree {keys codes : List String} {p p' : Value}
    (item : ItemTwin keys codes p p') :
    Gen.Agree (Reads (.among [Scan.start]) (.among [Scan.start])) (paramNote p) (paramNote p') := by
  intro n n' made made'
  simp only [paramNote, Gen.bind_eq_ok, Gen.pure_eq_ok] at made made'
  obtain ⟨name, named, type, typed, description, described, rfl⟩ := made
  obtain ⟨name', named', type', typed', description', described', rfl⟩ := made'
  rw [paramNote_text_eq, paramNote_text_eq]
  apply reads_of_check_within
  · simp [paramNotePieces, (item.fits.member named).1, (item.fits'.member named').1,
      (item.fits.member typed).1, (item.fits'.member typed').1, (item.fits.member described).1,
      (item.fits'.member described').1]
  · exact templatesChecked.paramNote _ _ _

theorem routineComments_reads {id parent parent' inputs inputs' outputs outputs' qualifications
      qualifications' contributions contributions' hardware hardware' : String}
    (identified : CommentSafe id) (parented : CommentSafe parent) (parented' : CommentSafe parent')
    (inputsRead : Reads (.among [Scan.start]) (.among [Scan.start]) inputs inputs')
    (outputsRead : Reads (.among [Scan.start]) (.among [Scan.start]) outputs outputs')
    (qualified : CommentSafe qualifications) (qualified' : CommentSafe qualifications')
    (contributed : CommentSafe contributions) (contributed' : CommentSafe contributions')
    (hardwareRead : Reads (.among [Scan.start]) (.among [Scan.start, Scan.inComment])
      hardware hardware') :
    Reads (.among [Scan.start]) (.among [Scan.start, Scan.inComment])
      (render (routineCommentPieces id parent inputs outputs qualifications contributions
        hardware))
      (render (routineCommentPieces id parent' inputs' outputs' qualifications' contributions'
        hardware')) := by
  apply reads_of_check_within
  · simp [routineCommentPieces, identified, parented, parented', inputsRead, outputsRead,
      qualified, qualified', contributed, contributed', hardwareRead]
  · exact templatesChecked.routineComments id parent inputs outputs qualifications contributions
      hardware

/-! ### Routines -/

theorem ItemTwin.signatureParamOf_agree {codes : List String} {p p' : Value}
    (item : ItemTwin ["description"] codes p p') :
    Gen.Agree (fun a a' => a' = a) (signatureParamOf p) (signatureParamOf p') :=
  Gen.Agree.of_eq (by
    unfold signatureParamOf
    rw [item.member_eq (by decide), item.member_eq (by decide)])

theorem memberInitOf_eq {m m' : Value}
    (alike : m'.eraseMembers ["description"] = m.eraseMembers ["description"]) :
    memberInitOf m' = memberInitOf m := by
  unfold memberInitOf
  rw [Value.member_eq_of_erase alike (by decide), Value.member_eq_of_erase alike (by decide)]

namespace DocTwin

variable {x x' : Element}

theorem resourceMembers_agree (twin : DocTwin x x') :
    Gen.Agree (List.Forall₂ fun m m' => m'.eraseMembers ["description"] = m.eraseMembers ["description"])
      (resourceMembers x) (resourceMembers x') := by
  have rel := twin.get?_json (show ["description"] ∈ jsonDocKeys "data_structure" from rfl)
  unfold resourceMembers
  generalize x.get? "data_structure" = o at rel ⊢
  generalize x'.get? "data_structure" = o' at rel ⊢
  cases rel with
  | none => exact Gen.Agree.pure .nil
  | @some s s' alike =>
    dsimp only
    rw [alike.isEmpty_eq]
    split
    · exact Gen.Agree.pure .nil
    · exact alike.read_agree.bind fun _ _ erased _ _ listed listed' =>
        Value.items_twin erased listed listed'

theorem resourceInitOf_agree (twin : DocTwin x x') (notHardware : x.tag ≠ "hw_resource") :
    Gen.Agree (fun i i' => i' = i) (resourceInitOf x) (resourceInitOf x') := by
  unfold resourceInitOf
  rw [twin.nameIdent_eq notHardware, twin.shown_eq (name_not_mem_docKeys notHardware) rfl]
  refine Gen.Agree.bind_eq (Gen.Agree.of_eq rfl) fun _ => ?_
  exact twin.resourceMembers_agree.bind fun _ _ members =>
    (Gen.Agree.mapM_eq members fun _ _ _ alike => Gen.Agree.of_eq (memberInitOf_eq alike)).bind
      fun _ _ inits => Gen.Agree.pure (by rw [inits])

end DocTwin

theorem TidyTwin.modeCodeOf_agree {x x' : Element} (twin : TidyTwin x x') :
    Gen.Agree (fun c c' => c' = c) (modeCodeOf x) (modeCodeOf x') := by
  unfold modeCodeOf
  rw [twin.twin.modesEnabled_eq]
  cases modesEnabled x
  · exact Gen.Agree.pure rfl
  · exact (twin.jsonOf_agree modeDocKeys_mem).bind fun _ _ modes =>
      modes.first_agree.bind fun _ _ first =>
        (first.member_agree (by decide)).bind fun _ _ coded => Gen.Agree.pure (by rw [coded])

/-! ### The sketch -/

theorem header_reads {x x' : Element} (tidy : Tidy x) (tidy' : Tidy x') :
    Reads (.among [Scan.start]) (.among [Scan.start])
      (render (headerPieces (shown x "id") (shown x "id_cim_parent") (shown x "name")
        (shown x "description")))
      (render (headerPieces (shown x' "id") (shown x' "id_cim_parent") (shown x' "name")
        (shown x' "description"))) := by
  apply reads_of_check_within
  · simp [headerPieces, tidy.shown_safe, tidy'.shown_safe]
  · exact templatesChecked.header _ _ _ _

section Component

variable {cpc cpc' : Element} (twin : DocTwin cpc cpc') (tidy : ∀ x ∈ cpc.subtree, Tidy x)
  (tidy' : ∀ x ∈ cpc'.subtree, Tidy x)

include twin tidy tidy'

theorem usesResource_agree {routineId : String} (plain : Plain routineId) {x x' : Element}
    (resourceTwin : TidyTwin x x') :
    Gen.Agree (fun b b' => b' = b) (usesResource cpc routineId x) (usesResource cpc' routineId x') := by
  have idPlain : Plain (shown x "id") :=
    resourceTwin.tidy.shown_plain (by simp) (by simp [mem_docKeys])
  have readable : Readable [("source", shown x "id"), ("target", routineId)] := by
    intro c listed
    simp only [List.mem_cons, List.not_mem_nil, or_false] at listed
    rcases listed with rfl | rfl
    · exact ⟨(by decide : PlainName "source"), Plain.quoteless idPlain⟩
    · exact ⟨(by decide : PlainName "target"), Plain.quoteless plain⟩
  obtain ⟨rs, rs', found, found', relations⟩ := twin.findAllIn_tidy tidy tidy'
    (.inr (by decide : PlainName "relation")) readable (by simp [splicedKeys])
  unfold usesResource
  dsimp only
  rw [resourceTwin.twin.shown_kept (by simp), usePath_eq, found, found']
  exact Gen.Agree.pure (by cases relations <;> rfl)

/-- Twin routines of twin components are twins: the same signature, resources and outputs
but for their descriptions, and comments that read alike. -/
theorem routineOf_agree {routine routine' : Element} (routineTwin : TidyTwin routine routine')
    (notHardware : routine.tag ≠ "hw_resource") :
    Gen.Agree Routine.Twin (routineOf routine cpc) (routineOf routine' cpc') := by
  have idPlain : Plain (shown routine "id") :=
    routineTwin.tidy.shown_plain (by simp) (by simp [mem_docKeys])
  unfold routineOf
  dsimp only
  rw [routineTwin.twin.shown_kept (by simp)]
  refine (routineTwin.nameIdent_agree notHardware).bind fun _ _ named => ?_
  obtain ⟨rfl, namePlain⟩ := named
  refine (routineTwin.jsonOf_agree rfl).bind fun _ _ inputs => ?_
  refine (routineTwin.jsonOf_agree rfl).bind fun _ _ outputs => ?_
  -- the signature: the inputs' types and names, and the first mode's code
  refine inputs.items_agree.bind fun _ _ inputItems => ?_
  refine (Gen.Agree.mapM_eq inputItems fun _ _ _ item => item.signatureParamOf_agree).bind
    fun _ _ params => ?_
  refine routineTwin.modeCodeOf_agree.bind fun _ _ modeCode => ?_
  -- the comments: notes on the parameters, qualifications, contributions and hardware
  refine inputs.items_agree.bind fun _ _ inputItems => ?_
  refine (Gen.Agree.mapM inputItems fun _ _ _ item => item.paramNote_agree).bind
    fun _ _ inputNotes => ?_
  refine outputs.items_agree.bind fun _ _ outputItems => ?_
  refine (Gen.Agree.mapM outputItems fun _ _ _ item => item.paramNote_agree).bind
    fun _ _ outputNotes => ?_
  refine (routineTwin.markedListNote_agree (by simp [listKeys])).bind fun _ _ qualified => ?_
  refine (routineTwin.markedListNote_agree (by simp [listKeys])).bind fun _ _ contributed => ?_
  refine (hardwareNotes_agree twin tidy tidy' routineTwin).bind fun _ _ hardware => ?_
  -- the body: output variables, switch and resources
  refine outputs.items_agree.bind fun _ _ outputItems => ?_
  refine (Gen.Agree.mapM outputItems fun _ _ _ item => Variable.ofParam_agree namePlain item).bind
    fun _ _ outputVars => ?_
  refine (routineTwin.modeSwitchOf_agree notHardware).bind fun _ _ switched => ?_
  refine (Gen.Agree.filterM (fun _ _ resource => usesResource_agree twin tidy tidy' idPlain resource.1)
    (twin.ownersTagged tidy tidy' (by decide : "sw_resource" ≠ "hw_resource"))).bind
      fun _ _ resources => ?_
  refine (Gen.Agree.mapM_eq resources fun _ _ _ resource =>
    resource.1.twin.resourceInitOf_agree resource.2).bind fun _ _ inits => ?_
  refine Gen.Agree.pure ⟨rfl, params, modeCode, ?_, outputVars, switched, inits⟩
  rw [routineComments_text_eq, routineComments_text_eq]
  exact routineComments_reads idPlain.commentSafe (routineTwin.tidy.shown_safe _)
    (routineTwin.tidy'.shown_safe _) (Reads.join inputNotes) (Reads.join outputNotes) qualified.1
    qualified.2 contributed.1 contributed.2 (hardware.reads_indentLines blanks_four)

theorem sketchOf_agree (systemId : String) (component : cpc.tag ≠ "hw_resource") :
    Gen.Agree Program.Twin (sketchOf systemId cpc) (sketchOf systemId cpc') := by
  have selfTidy : ∀ {e : Element}, (∀ x ∈ e.subtree, Tidy x) → Tidy e := fun tidy =>
    tidy _ (by rw [subtree_eq_cons]; exact List.mem_cons_self)
  unfold sketchOf
  dsimp only
  refine Gen.Agree.bind_eq (topicsOf_agree twin tidy tidy' systemId) fun _ => ?_
  refine Gen.Agree.bind_eq (clientsOf_agree twin tidy tidy' component) fun _ => ?_
  refine Gen.Agree.bind_eq (taskDeclsOf_agree twin tidy tidy') fun _ => ?_
  refine (outputVariablesOf_agree twin tidy tidy').bind fun _ _ outputs => ?_
  refine (modeDeclsOf_agree twin tidy tidy').bind fun _ _ modes => ?_
  refine (structDeclsOf_agree twin tidy tidy').bind fun _ _ structs => ?_
  refine Gen.Agree.bind_eq (nameIdents_agree twin tidy tidy'
    (by decide : "commThread" ≠ "hw_resource")) fun _ => ?_
  refine Gen.Agree.bind_eq (nameIdents_agree twin tidy tidy'
    (by decide : "listenerThread" ≠ "hw_resource")) fun _ => ?_
  refine Gen.Agree.bind_eq (creationNamesOf_agree twin tidy tidy') fun _ => ?_
  refine Gen.Agree.bind_eq (connectionsOf_agree twin tidy tidy') fun _ => ?_
  refine (callbacksOf_agree twin tidy tidy').bind fun _ _ callbacks => ?_
  refine (publishTasksOf_agree twin tidy tidy').bind fun _ _ publishTasks => ?_
  refine (receiveTasksOf_agree twin tidy tidy').bind fun _ _ receiveTasks => ?_
  refine (Gen.Agree.mapM (twin.ownersTagged tidy tidy' (by decide : "function" ≠ "hw_resource"))
    fun _ _ _ routine => routineOf_agree twin tidy tidy' routine.1 routine.2).bind
      fun _ _ routines => ?_
  refine (taskBodiesOf_agree twin tidy tidy').bind fun _ _ taskBodies => Gen.Agree.pure ⟨?_, rfl,
    rfl, rfl, outputs, modes, structs, rfl, rfl, rfl, rfl, callbacks, publishTasks, receiveTasks,
    routines, taskBodies⟩
  dsimp only
  rw [header_text_eq, header_text_eq]
  exact header_reads (selfTidy tidy) (selfTidy tidy')

end Component

/-- Documentation is inert in tidy components. Take two components alike but for their
documentation, whose elements are all tidy: no value breaks a line or ends with a backslash,
lists of qualifications and contributions have one entry, and the values that stand in code are
plain. When the sketch of each is made, the two sketches are equal once their line comments are
removed. -/
theorem sketchText_inert_of_tidy {systemId : String} {cpc cpc' : Element}
    (twin : DocTwin cpc cpc') (tidy : ∀ x ∈ cpc.subtree, Tidy x)
    (tidy' : ∀ x ∈ cpc'.subtree, Tidy x) (component : cpc.tag ≠ "hw_resource") {text text' : String}
    (made : sketchText systemId cpc = .ok text) (made' : sketchText systemId cpc' = .ok text') :
    stripLineComments text = stripLineComments text' := by
  simp only [sketchText, Gen.bind_eq_ok, Gen.pure_eq_ok] at made made'
  obtain ⟨sk, built, rfl⟩ := made
  obtain ⟨sk', built', rfl⟩ := made'
  exact (sketchOf_agree twin tidy tidy' systemId component sk sk' built built').stripLineComments_eq

/-! ### Components with one task -/

def notedTask (qualifications : String) : Element :=
  ⟨1, "thread", [("id", "t1"), ("name", "Act"), ("qualification_array", qualifications),
    ("contribution_array", "[]")], "", [], ""⟩

def bulletComponent (qualifications : String) : Element :=
  ⟨0, "cpc", [("id", "c1"), ("name", "Unit")], "", [notedTask qualifications], ""⟩

theorem bulletComponent_twin (q q' : String) : DocTwin (bulletComponent q) (bulletComponent q') := by
  refine .mk rfl rfl rfl rfl ?_ (.cons (.mk rfl rfl rfl rfl ?_ .nil) .nil)
  · simp [bulletComponent, AttrTwin]
  · simp [notedTask, AttrTwin, docKeys]

theorem Tidy.of_jsonless {x : Element} (safe : ∀ a ∈ x.attrs, CommentSafe a.2)
    (plain : ∀ key ∈ ["id", "name", "source", "target"], key ∉ docKeys x.tag →
      ∀ v ∈ x.get? key, Plain v)
    (single : ∀ key ∈ listKeys, ∀ v ∈ x.get? key, ';' ∉ v.toList)
    (jsonless : ∀ name ∈ ["input_parameters", "output_parameters", "data_structure",
      "dependum_data_structure", "operation_modes"], x.get? name = none) : Tidy x := by
  refine ⟨safe, plain, single, fun name keys json text found => ?_⟩
  have listed : name ∈ ["input_parameters", "output_parameters", "data_structure",
      "dependum_data_structure", "operation_modes"] := by
    unfold jsonDocKeys at json
    split at json <;> simp at json ⊢
  rw [jsonless name listed] at found
  cases found

theorem bulletComponent_subtree (q : String) :
    (bulletComponent q).subtree = [bulletComponent q, notedTask q] := by
  rw [subtree_eq_cons, bulletComponent]
  simp [Element.subtreeOfList, subtree_eq_cons, notedTask]

def Program.sameSections (sk sk' : Program) : Bool :=
  sk.header == sk'.header && sk.clients == sk'.clients && sk.topics == sk'.topics &&
    sk.goals == sk'.goals && sk.outputs == sk'.outputs && sk.modes == sk'.modes &&
    sk.structs == sk'.structs && sk.sendHandles == sk'.sendHandles &&
    sk.receiveHandles == sk'.receiveHandles && sk.connections == sk'.connections &&
    sk.creations == sk'.creations && sk.callbacks == sk'.callbacks &&
    sk.publishTasks == sk'.publishTasks && sk.receiveTasks == sk'.receiveTasks &&
    sk.routines == sk'.routines

def bulletTask (qualifications : String) : TaskBody :=
  ⟨"act", "None", "t1", "None", qualifications, " * None specified.", .toggle "act", none⟩

/-- Whether the components whose task lists `alpha;beta`, `alpha` and `beta` have sketches, the
first two alike in every section before the tasks, with the tasks bulleting two and one
qualifications. -/
def bulletSketchesFound : Bool :=
  match sketchOf "cps" (bulletComponent "alpha;beta"), sketchOf "cps" (bulletComponent "alpha"),
      sketchOf "cps" (bulletComponent "beta") with
  | .ok sk, .ok sk', .ok _ => sk.sameSections sk' &&
      sk.taskBodies == [bulletTask " * - \"alpha\"\n * - \"beta\""] &&
      sk'.taskBodies == [bulletTask " * - \"alpha\""]
  | _, _, _ => false

theorem bulletSketches_found : bulletSketchesFound = true := by decide +kernel

/-- Two components whose task lists one qualification, `alpha` or `beta`: tidy twins, whose
sketches are equal once their line comments are removed. -/
theorem singleBulletComponents_inert :
    DocTwin (bulletComponent "alpha") (bulletComponent "beta") ∧
      (∀ x ∈ (bulletComponent "alpha").subtree, Tidy x) ∧
      (∀ x ∈ (bulletComponent "beta").subtree, Tidy x) ∧
      ∃ text text', sketchText "cps" (bulletComponent "alpha") = .ok text ∧
        sketchText "cps" (bulletComponent "beta") = .ok text' ∧
        stripLineComments text = stripLineComments text' := by
  have tidy : ∀ q ∈ ["alpha", "beta"], ∀ x ∈ (bulletComponent q).subtree, Tidy x := by
    intro q listed x member
    rw [bulletComponent_subtree] at member
    simp only [List.mem_cons, List.not_mem_nil, or_false] at listed member
    rcases listed with rfl | rfl <;> rcases member with rfl | rfl <;>
      exact Tidy.of_jsonless (by decide) (by decide) (by decide) (by decide)
  obtain ⟨sk, sk', made, made'⟩ : ∃ sk sk', sketchOf "cps" (bulletComponent "alpha") = .ok sk ∧
      sketchOf "cps" (bulletComponent "beta") = .ok sk' := by
    have evaluated := bulletSketches_found
    unfold bulletSketchesFound at evaluated
    split at evaluated
    · rename_i _ sk sk' _ made made'
      exact ⟨sk, sk', made, made'⟩
    · cases evaluated
  have text : sketchText "cps" (bulletComponent "alpha") = .ok sk.text := by simp [sketchText, made]
  have text' : sketchText "cps" (bulletComponent "beta") = .ok sk'.text := by
    simp [sketchText, made']
  exact ⟨bulletComponent_twin _ _, tidy _ (by simp), tidy _ (by simp), sk.text, sk'.text, text,
    text', sketchText_inert_of_tidy (bulletComponent_twin _ _) (tidy _ (by simp)) (tidy _ (by simp))
      (by decide) text text'⟩

/-! ### A second qualification -/

/-- Texts alike before and after a middle: when their middles lead from the same state to the
same state but write differently, the texts differ once their line comments are removed. -/
theorem stripLineComments_ne_of_middle {text text' : String} (pre mid mid' post : String)
    {s : Scan} (split : text = pre ++ mid ++ post) (split' : text' = pre ++ mid' ++ post)
    (before : (Scan.start.feed pre).1 = s) (meet : (s.feed mid').1 = (s.feed mid).1)
    (differ : (s.feed mid).2 ≠ (s.feed mid').2) :
    stripLineComments text ≠ stripLineComments text' := by
  intro same
  rw [split, split'] at same
  unfold stripLineComments at same
  simp only [Scan.feed_append, before, meet] at same
  have lists := congrArg String.toList same
  simp only [String.toList_ofList, List.append_assoc] at lists
  exact differ (List.append_cancel_right (List.append_cancel_left lists))

theorem Program.parts_dropLast_of_sameSections {sk sk' : Program} (same : sk.sameSections sk' = true) :
    sk'.parts.dropLast = sk.parts.dropLast := by
  cases sk
  cases sk'
  simp only [Program.sameSections, Bool.and_eq_true, beq_iff_eq] at same
  obtain ⟨⟨⟨⟨⟨⟨⟨⟨⟨⟨⟨⟨⟨⟨rfl, rfl⟩, rfl⟩, rfl⟩, rfl⟩, rfl⟩, rfl⟩, rfl⟩, rfl⟩, rfl⟩, rfl⟩, rfl⟩, rfl⟩,
    rfl⟩, rfl⟩ := same
  rfl

theorem Program.text_eq_sections (sk : Program) :
    sk.text = String.join sk.parts.dropLast ++ String.join (sk.taskBodies.map TaskBody.text) := by
  have split : sk.parts = sk.parts.dropLast ++ [String.join (sk.taskBodies.map TaskBody.text)] := rfl
  calc sk.text = String.join (sk.parts.dropLast ++ [String.join (sk.taskBodies.map TaskBody.text)]) :=
        congrArg String.join split
    _ = _ := by rw [String.join_append, String.join_cons, String.join_nil, String.append_empty]

theorem TaskBody.text_eq_qualifications (tb : TaskBody) :
    tb.text = render (tb.pieces.take 24) ++ (tb.qualifications ++ "\n") ++
      render (tb.pieces.drop 26) := by
  have rest : tb.pieces.drop 24 = .doc tb.qualifications :: .lit "\n" :: tb.pieces.drop 26 := rfl
  calc tb.text = render (tb.pieces.take 24 ++ tb.pieces.drop 24) := by
        rw [List.take_append_drop, TaskBody.text_eq]
    _ = _ := by
      rw [rest]
      simp only [render, List.map_append, List.map_cons, String.join_append, String.join_cons,
        Piece.doc, Piece.lit, String.append_assoc]

/-- Whatever state the text before it leaves, the task's text up to its qualifications ends
inside a line comment: it opens on a line feed, and its last piece opens the comment that the
qualifications continue. -/
theorem bulletTask_opening (q : String) (s : Scan) :
    (s.feed (render ((bulletTask q).pieces.take 24))).1 = Scan.inComment := by
  have reads : Reads .any (.among [Scan.inComment]) (render ((bulletTask q).pieces.take 24))
      (render ((bulletTask q).pieces.take 24)) := by
    apply reads_of_check_within
    · simp [bulletTask, TaskBody.pieces, (by decide : Plain "act"), (by decide : Plain "t1"),
        (by decide : CommentSafe "None")]
    · exact templatesChecked.taskOpening (bulletTask q)
  simpa [Known.Holds] using (reads s trivial).2

/-- After a first bullet, a second one starts a line of code; a single bullet ends its line
inside the comment. -/
theorem second_bullet_writes_code :
    (Scan.inComment.feed (" * - \"alpha\"" ++ "\n")).1 =
        (Scan.inComment.feed (" * - \"alpha\"\n * - \"beta\"" ++ "\n")).1 ∧
      (Scan.inComment.feed (" * - \"alpha\"\n * - \"beta\"" ++ "\n")).2 ≠
        (Scan.inComment.feed (" * - \"alpha\"" ++ "\n")).2 := by
  decide +kernel

/-- Qualifications are not inert: a second entry in the list of a task is written on a line of
its own after the bullet of the first, outside the comment, so two components that differ only
in their task's qualifications have sketches that differ with their line comments removed. -/
theorem bulletComponent_second_bullet_in_code :
    DocTwin (bulletComponent "alpha;beta") (bulletComponent "alpha") ∧
      ∃ text text', sketchText "cps" (bulletComponent "alpha;beta") = .ok text ∧
        sketchText "cps" (bulletComponent "alpha") = .ok text' ∧
        stripLineComments text ≠ stripLineComments text' := by
  have evaluated := bulletSketches_found
  unfold bulletSketchesFound at evaluated
  split at evaluated
  · rename_i sk sk' _ made made' _
    simp only [Bool.and_eq_true, beq_iff_eq] at evaluated
    obtain ⟨⟨same, tasks⟩, tasks'⟩ := evaluated
    obtain ⟨meet, differ⟩ := second_bullet_writes_code
    refine ⟨bulletComponent_twin _ _, sk.text, sk'.text, by simp [sketchText, made],
      by simp [sketchText, made'], ?_⟩
    -- the sketches share every section before the tasks, and the tasks their text around the
    -- qualifications
    refine stripLineComments_ne_of_middle
      (String.join sk.parts.dropLast ++ render ((bulletTask "").pieces.take 24)) _ _
      (render ((bulletTask "").pieces.drop 26)) ?_ ?_ ?_ meet differ
    · rw [Program.text_eq_sections, tasks, List.map_singleton, String.join_cons, String.join_nil, String.append_empty,
        TaskBody.text_eq_qualifications]
      simp only [String.append_assoc]
      rfl
    · rw [Program.text_eq_sections, Program.parts_dropLast_of_sameSections same, tasks',
        List.map_singleton, String.join_cons, String.join_nil, String.append_empty, TaskBody.text_eq_qualifications]
      simp only [String.append_assoc]
      rfl
    · rw [Scan.feed_append]
      dsimp only
      exact bulletTask_opening "" _
  · cases evaluated

end SketchGen.Sketch
