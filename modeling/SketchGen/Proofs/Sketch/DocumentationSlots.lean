import SketchGen.Proofs.Cpp.LineComments
import SketchGen.Proofs.Text.Lines
import SketchGen.Proofs.Traversal
import SketchGen.Sketch.Program

namespace List.Forall₂

variable {α β γ δ : Type}

theorem filterMap {R : α → β → Prop} {S : γ → δ → Prop} {f : α → Option γ} {g : β → Option δ}
    (images : ∀ a b, R a b → Option.Rel S (f a) (g b)) :
    ∀ {xs : List α} {ys : List β}, List.Forall₂ R xs ys →
      List.Forall₂ S (xs.filterMap f) (ys.filterMap g)
  | [], [], .nil => .nil
  | x :: _, y :: _, .cons related rest => by
    have tail := filterMap images rest
    have image := images x y related
    rw [List.filterMap_cons, List.filterMap_cons]
    revert image
    cases f x <;> cases g y <;> intro image
    · exact tail
    · cases image
    · cases image
    · cases image with
      | some related' => exact .cons related' tail

end List.Forall₂

namespace SketchGen.Sketch

open SketchGen.Cpp SketchGen.Text

/-! Where documentation stands in a sketch. Each template that writes documentation is a list
of pieces: its fixed text, plain values of the model, and documentation. Two instances of a
template that differ only in their documentation read alike with comments removed, provided
that at each piece of documentation the scanner is inside a comment; that is checked along the
template once, for every instance. Blocks of comment lines, which the sketch indents as a whole,
are read line by line instead. -/

/-! ### Comment lines -/

/-- Two lines alike but for the text of their comments: both empty, or a line comment after the
same blanks. -/
inductive CommentLine.Twin : String → String → Prop
  | empty : Twin "" ""
  | comment {pre c c' : String} (spaces : ∀ ch ∈ pre.toList, ch = ' ') (safe : CommentSafe c)
      (safe' : CommentSafe c') : Twin (pre ++ "//" ++ c) (pre ++ "//" ++ c')

theorem reads_newline :
    Reads (.among [Scan.start, Scan.inComment]) (.among [Scan.start]) "\n" "\n" := by
  intro s hs
  simp only [Known.Holds, List.mem_cons, List.not_mem_nil, or_false] at hs
  rcases hs with rfl | rfl <;> exact ⟨rfl, List.mem_singleton.mpr rfl⟩

namespace CommentLine.Twin

variable {l l' : String}

theorem comment_left {c c' : String} (safe : CommentSafe c) (safe' : CommentSafe c') :
    Twin ("//" ++ c) ("//" ++ c') := by
  simpa using @Twin.comment "" c c' (by simp) safe safe'

theorem reads (twin : Twin l l') :
    Reads (.among [Scan.start]) (.among [Scan.start, Scan.inComment]) l l' := by
  intro s hs
  simp only [Known.Holds, List.mem_singleton] at hs
  subst hs
  cases twin with
  | empty => exact ⟨rfl, by simp [Known.Holds]⟩
  | comment spaces safe safe' =>
    rw [Scan.feed_commentLine spaces safe, Scan.feed_commentLine spaces safe']
    exact ⟨rfl, by simp [Known.Holds]⟩

theorem oneLine (twin : Twin l l') : OneLine l ∧ OneLine l' := by
  cases twin with
  | empty => exact ⟨by decide, by decide⟩
  | comment spaces safe safe' =>
    have blanks : OneLine (_ ++ "//") :=
      OneLine.append (fun c hc => by rw [spaces c hc]; decide) (by decide)
    exact ⟨blanks.append safe.1, blanks.append safe'.1⟩

theorem empty_iff (twin : Twin l l') : l' = "" ↔ l = "" := by
  cases twin with
  | empty => simp
  | comment spaces safe safe' =>
    simp only [← String.toList_inj, String.toList_append]
    simp

theorem indent (twin : Twin l l') {p : String} (spaces : ∀ ch ∈ p.toList, ch = ' ') :
    Twin (indentLine p l) (indentLine p l') := by
  cases twin with
  | empty =>
    rw [indentLine_of_blanks (fun c hc => by simp at hc)]
    exact Twin.empty
  | @comment pre c c' spaces' safe safe' =>
    have slash : ∀ d : String, '/' ∈ (pre ++ "//" ++ d).toList := fun d => by simp
    rw [indentLine_of_filled (slash c) (by decide), indentLine_of_filled (slash c') (by decide)]
    have blanks : ∀ ch ∈ (p ++ pre).toList, ch = ' ' := fun ch member => by
      rw [String.toList_append, List.mem_append] at member
      exact member.elim (spaces ch) (spaces' ch)
    simpa only [String.append_assoc] using @Twin.comment (p ++ pre) c c' blanks safe safe'

end CommentLine.Twin

namespace CommentLine

variable {ls ls' : List String}

theorem oneLine_left (twins : List.Forall₂ Twin ls ls') : ∀ l ∈ ls, OneLine l := fun _ member =>
  let ⟨_, _, twin⟩ := twins.exists_of_mem_left member
  twin.oneLine.1

theorem oneLine_right (twins : List.Forall₂ Twin ls ls') : ∀ l ∈ ls', OneLine l := fun _ member =>
  let ⟨_, _, twin⟩ := twins.exists_of_mem_right member
  twin.oneLine.2

theorem reads_intercalate (twins : List.Forall₂ Twin ls ls') :
    Reads (.among [Scan.start]) (.among [Scan.start, Scan.inComment])
      ("\n".intercalate ls) ("\n".intercalate ls') :=
  Reads.intercalate reads_newline (by decide) (twins.imp fun _ _ twin => twin.reads)

theorem reads_join (twins : List.Forall₂ Twin ls ls') :
    Reads (.among [Scan.start]) (.among [Scan.start])
      (String.join (ls.map (· ++ "\n"))) (String.join (ls'.map (· ++ "\n"))) := by
  apply Reads.join
  rw [List.forall₂_map_left_iff, List.forall₂_map_right_iff]
  exact twins.imp fun _ _ twin => twin.reads.append reads_newline

theorem indent_all (twins : List.Forall₂ Twin ls ls') {p : String}
    (spaces : ∀ ch ∈ p.toList, ch = ' ') :
    List.Forall₂ Twin (ls.map (indentLine p)) (ls'.map (indentLine p)) := by
  rw [List.forall₂_map_left_iff, List.forall₂_map_right_iff]
  exact twins.imp fun _ _ twin => twin.indent spaces

theorem reads_indentLines (twins : List.Forall₂ Twin ls ls') {p : String}
    (spaces : ∀ ch ∈ p.toList, ch = ' ') :
    Reads (.among [Scan.start]) (.among [Scan.start, Scan.inComment])
      (indentLines p (String.join (ls.map (· ++ "\n"))))
      (indentLines p (String.join (ls'.map (· ++ "\n")))) := by
  rw [indentLines_join_lines p (oneLine_left twins), indentLines_join_lines p (oneLine_right twins)]
  exact reads_intercalate (indent_all twins spaces)

theorem getLast_ne_empty (twins : List.Forall₂ Twin ls ls') (last : ls.getLast? ≠ some "") :
    ls'.getLast? ≠ some "" := by
  induction twins with
  | nil => simp
  | @cons l l' rest rest' twin _ ih =>
    cases rest with
    | nil =>
      cases ‹List.Forall₂ Twin [] rest'›
      simpa [twin.empty_iff] using last
    | cons m ms =>
      cases rest' with
      | nil => cases ‹List.Forall₂ Twin (m :: ms) []›
      | cons m' ms' =>
        simp only [List.getLast?_cons_cons] at last ⊢
        exact ih last

theorem reads_indentLines_intercalate (twins : List.Forall₂ Twin ls ls') {p : String}
    (spaces : ∀ ch ∈ p.toList, ch = ' ') (last : ls.getLast? ≠ some "") :
    Reads (.among [Scan.start]) (.among [Scan.start, Scan.inComment])
      (indentLines p ("\n".intercalate ls)) (indentLines p ("\n".intercalate ls')) := by
  rw [indentLines_intercalate p (oneLine_left twins) last,
    indentLines_intercalate p (oneLine_right twins) (getLast_ne_empty twins last)]
  exact reads_intercalate (indent_all twins spaces)

end CommentLine

/-! ### Templates -/

def ModeCase.pieces (indent : String) (c : ModeCase) : List Piece :=
  [.value indent, .lit "    case ", .value c.code, .lit ": // ", .doc c.name, .lit " - ",
    .doc c.description, .lit "\n",
    .value indent, .lit "        // Your logic for ", .doc c.name, .lit " goes here\n",
    .value indent, .lit "        break;\n"]

theorem ModeCase.text_eq (indent : String) (c : ModeCase) :
    c.text indent = render (c.pieces indent) := by
  unfold ModeCase.text ModeCase.pieces
  simp [render, Piece.lit, Piece.value, Piece.doc, String.append_assoc]

def ModeSwitch.pieces (indent : String) (sw : ModeSwitch) : List Piece :=
  [.lit "\n", .value indent, .lit "switch (", .value sw.ident, .lit ") \x7b\n",
    .part (.among [Scan.start]) (.among [Scan.start])
      (String.join (sw.cases.map (ModeCase.text indent))),
    .value indent, .lit "    default:\n",
    .value indent, .lit "        // Handle undefined operation modes\n",
    .value indent, .lit "        break;\n",
    .value indent, .lit "\x7d\n"]

theorem ModeSwitch.text_eq (indent : String) (sw : ModeSwitch) :
    sw.text indent = render (sw.pieces indent) := by
  unfold ModeSwitch.text ModeSwitch.pieces
  simp [render, Piece.lit, Piece.value, Piece.part, String.append_assoc]

def ModeDecl.pieces (d : ModeDecl) : List Piece :=
  [.lit "int ", .value d.ident, .lit " = ", .value d.code, .lit "; // Initial operation mode: ",
    .doc d.modeName]

theorem ModeDecl.text_eq (d : ModeDecl) : d.text = render d.pieces := by
  unfold ModeDecl.text ModeDecl.pieces
  simp [render, Piece.lit, Piece.value, Piece.doc, String.append_assoc]

def Variable.linePieces (indent statement : String) (v : Variable) : List Piece :=
  [.value indent, .part (.among codeStates) (.among codeStates) statement, .lit "; // ",
    .doc v.description, .lit "\n"]

def StructDecl.structPieces (mode : VarMode) (owner : String) (members : List Variable) :
    List Piece :=
  [.lit "struct ", .value owner, .lit "_data_structure \x7b\n",
    .part (.among [Scan.start]) (.among [Scan.start])
      (String.join (members.filterMap (Variable.line "    " mode))),
    .lit "\x7d ", .value owner, .lit "_data_structure;\n"]

def TaskBody.pieces (tb : TaskBody) : List Piece :=
  [.lit "\n", .lit "// Task for ", .value tb.owner, .lit "\n",
   .same ((Symbol.taskFunction tb.owner).declaration), .lit " \x7b\n",
   .lit "    // This variable handles the period in milliseconds for thread execution\n",
   .lit "    const TickType_t xDelay = pdMS_TO_TICKS(", .same tb.interval,
   .lit "); // Example interval for ", .value tb.owner, .lit "\n", .lit "\n", .lit "    // --- ",
   .value tb.owner, .lit " Context Information ---\n", .lit "    // ID: ", .value tb.id, .lit "\n",
   .lit "    // ID CIM Parent: ", .doc tb.parent, .lit "\n", .lit "    // qualification_array: \n",
   .lit "    // ", .doc tb.qualifications, .lit "\n", .lit "    // contribution_array: \n",
   .lit "    // ", .doc tb.contributions, .lit "\n",
   .lit "    // ----------------------------------------------------------\n", .lit "\n",
   .lit "    for (;;) \x7b\n", .lit "        // --- Your code goes here ---\n",
   .lit "        // Evaluate the state of ", .value tb.owner, .lit "\n", .lit "\n", .lit "        ",
   .same tb.logic.text, .lit "\n", .lit "        ",
   .part .settled .settled (switchText "        " tb.switch), .lit "\n",
   .lit "        // --- Your code ends here ---\n", .lit "\n", .lit "        vTaskDelay(xDelay);\n",
   .lit "    \x7d\n", .lit "\x7d\n"]

theorem TaskBody.text_eq (tb : TaskBody) : tb.text = render tb.pieces := by
  unfold TaskBody.text
  simp only [TaskBody.pieces, render, List.map_cons, List.map_nil, Piece.lit, Piece.value, Piece.same, Piece.doc, Piece.part,
    String.join_cons, String.join_nil, String.append_empty, String.append_assoc]

def Callback.pieces (cb : Callback) : List Piece :=
  [.lit "\n", .same ((Symbol.callback cb.owner).declaration), .lit " \x7b\n",
   .lit "    Serial.print(\"Message on Topic 1: \");\n", .lit "    Serial.print(topic);\n",
   .lit "    Serial.println(\" - \");\n", .lit "    // Parse the incoming JSON message\n",
   .lit "    StaticJsonDocument<200> doc;\n",
   .lit "    DeserializationError error = deserializeJson(doc, payload);\n", .lit "\n",
   .lit "    if (!error) \x7b\n",
   .same (indentLines "        " (joinLines (cb.fields.map (extractionLine cb.owner)))), .lit "\n",
   .lit "\n", .lit "        // Debug output to Serial\n",
   .lit "        Serial.println(\"Dependum data received:\");\n", .lit "        if (debug) \x7b\n",
   .same (indentLines "                    " (joinLines (cb.fields.map (printLines cb.owner)))),
   .lit "\n", .lit "        \x7d\n", .lit "    \x7d else \x7b\n",
   .lit "        Serial.println(\"Error parsing JSON message\");\n", .lit "    \x7d\n",
   .lit "    // Your custom code to process the dependum can go here\n",
   .part .settled .settled (switchText "        " cb.switch), .lit "\n", .lit "\n", .lit "\n",
   .lit "\x7d\n", .lit "\n"]

theorem Callback.text_eq (cb : Callback) : cb.text = render cb.pieces := by
  unfold Callback.text
  simp only [Callback.pieces, render, List.map_cons, List.map_nil, Piece.lit, Piece.same, Piece.part,
    String.join_cons, String.join_nil, String.append_empty, String.append_assoc]

def PublishTask.pieces (pt : PublishTask) : List Piece :=
  [.lit "\n", .lit "\n", .same ((Symbol.taskFunction (publishTaskName pt.owner)).declaration),
   .lit " \x7b\n", .part (.among [Scan.start]) (.among [Scan.start, Scan.inComment]) pt.notes,
   .lit "\n", .lit "    // This variable handles the period in milliseconds for thread execution\n",
   .lit "    const TickType_t xDelay = pdMS_TO_TICKS(", .same pt.interval, .lit ");\n",
   .lit "    for (;;) \x7b\n", .lit "        // Create a JSON object for the dependum\n",
   .lit "        JSONVar dependumJson;\n",
   .same (indentLines "        " (joinLines (pt.fields.map (publicationLine pt.owner)))), .lit "\n",
   .lit "\n", .lit "        // Convert the JSON object to a string\n",
   .lit "        String dependumMessage = JSON.stringify(dependumJson);\n", .lit "\n",
   .part .settled .settled (switchText "    " pt.switch), .lit "\n", .lit "\n", .lit "        ",
   .same pt.owner, .lit "MqttClient", .lit ".publish(", .same pt.owner, .lit "_topic",
   .lit ", dependumMessage.c_str());  // Publish message\n", .lit "        if (debug) \x7b\n",
   .lit "            Serial.println(\"Dependum published successfully for ", .same pt.title,
   .lit "!\");\n", .lit "            Serial.print(\"Topic: \");\n",
   .lit "            Serial.println(", .same pt.owner, .lit "_topic", .lit ");\n",
   .lit "            Serial.print(\"Message: \");\n",
   .lit "            Serial.println(dependumMessage);\n", .lit "        \x7d else \x7b\n",
   .lit "            if (debug) \x7b\n",
   .lit "                Serial.println(\"Failed to publish dependum for ", .same pt.title,
   .lit ".\");\n", .lit "            \x7d\n", .lit "            \n", .lit "        \x7d\n",
   .lit "        vTaskDelay(xDelay);\n", .lit "    \x7d\n", .lit "\x7d\n", .lit "\n"]

theorem PublishTask.text_eq (pt : PublishTask) : pt.text = render pt.pieces := by
  unfold PublishTask.text
  simp only [PublishTask.pieces, render, List.map_cons, List.map_nil, Piece.lit, Piece.same, Piece.part,
    String.join_cons, String.join_nil, String.append_empty, String.append_assoc, Symbol.ident]

def ReceiveTask.pieces (rt : ReceiveTask) : List Piece :=
  [.lit "\n", .same ((Symbol.taskFunction (receiveTaskName rt.owner)).declaration), .lit " \x7b\n",
   .part (.among [Scan.start]) (.among [Scan.start, Scan.inComment]) rt.notes, .lit "\n",
   .lit "    // This variable handles the period in milliseconds for thread execution\n",
   .lit "    const TickType_t xDelay = pdMS_TO_TICKS(", .same rt.interval, .lit ");\n",
   .lit "    \n", .lit "\n", .lit "    for (;;)\n", .lit "    \x7b\n", .lit "\n",
   .lit "        // Check MQTT connection status\n", .lit "        if (!", .same rt.owner,
   .lit "MqttClient", .lit ".connected())\n", .lit "        \x7b\n",
   .lit "          connectToMQTT(", .same rt.owner, .lit "MqttClient", .lit ", ", .same rt.owner,
   .lit "ClientId", .lit ", ", .same rt.owner, .lit "_topic", .lit ");\n", .lit "        \x7d\n",
   .lit "\n", .lit "        // Always poll MQTT for new messages\n", .lit "        ",
   .same rt.owner, .lit "MqttClient", .lit ".loop();\n", .lit "\n",
   .lit "        // Keep delay to avoid overloading loop but keep polling\n",
   .lit "        vTaskDelay(xDelay);\n", .lit "    \x7d\n", .lit "\x7d\n"]

theorem ReceiveTask.text_eq (rt : ReceiveTask) : rt.text = render rt.pieces := by
  unfold ReceiveTask.text
  simp only [ReceiveTask.pieces, render, List.map_cons, List.map_nil, Piece.lit, Piece.same, Piece.part,
    String.join_cons, String.join_nil, String.append_empty, String.append_assoc, Symbol.ident]

def Routine.pieces (r : Routine) : List Piece :=
  [.lit "\n", .code r.signature, .lit "\n",
   .part (.among [Scan.start]) (.among [Scan.start, Scan.inComment]) r.comments, .lit "\n",
   .lit "    // Set output parameters\n", .lit " ",
   .part (.among [Scan.start]) (.among [Scan.start]) (" ".intercalate (r.outputs.filterMap (Variable.line "   " .assign))),
   .lit "\n", .same (String.join (r.resources.map ResourceInit.text)), .lit "\n",
   .lit "    // --- Your code goes here ---\n", .lit "    \n", .lit "    ",
   .part .settled .settled (switchText "    " r.switch), .lit "\n", .lit "    \n",
   .lit "    return true;\n", .lit "\n", .lit "    // --- Your code goes here ---\n", .lit "\x7d\n"]

theorem Routine.text_eq (r : Routine) : r.text = render r.pieces := by
  unfold Routine.text
  simp only [Routine.pieces, render, List.map_cons, List.map_nil, Piece.lit, Piece.code, Piece.same, Piece.part,
    String.join_cons, String.join_nil, String.append_empty, String.append_assoc]

def Program.pieces (sk : Program) : List Piece :=
  [.part (.among [Scan.start]) (.among [Scan.start]) sk.header, .lit includes,
    .same (String.join (sk.clients.map Client.text)),
    .lit ("\nbool debug = true;\n\n" ++
      "// MQTT topics for this CPC (\x7bCPS_id\x7d/\x7bCPC_id\x7d/\x7bcomm_thread_id\x7d)\n\n"),
    .same sk.topics.text,
    .lit "\n\n// Thread Status variables\n",
    .same (String.join (sk.goals.map TaskDecl.text)), .lit "\n",
    .lit "// Function output variables\n",
    .part (.among [Scan.start]) (.among [Scan.start])
      (String.join (sk.outputs.filterMap (Variable.line "" .init))),
    .lit "\n// Global Operation Mode Variables\n",
    .part (.among [Scan.start]) (.among [Scan.start, Scan.inComment])
      ("\n".intercalate (sk.modes.map ModeDecl.text)),
    .lit "\n\n// Global Data Structures (software resources and/or any dependum)\n",
    .part (.among [Scan.start]) (.among [Scan.start])
      ("\n".intercalate (sk.structs.map (StructDecl.text .declare))),
    .lit "\n",
    .same (headed "// Comm Thread Handles"
      (joinLines (sk.sendHandles.map fun n => (Symbol.taskHandle (publishTaskName n)).declaration))),
    .same (headed "// Listener Thread Handles"
      (joinLines (sk.receiveHandles.map fun n =>
        (Symbol.taskHandle (receiveTaskName n)).declaration))),
    .lit setupOpening,
    .same (indentLines "    " sk.connections.text),
    .lit "\n    \n    // Create tasks for the operational goals\n",
    .same (String.join (sk.creations.map taskCreation)),
    .lit "\n    // Start the threads\n    vTaskStartScheduler();\n\x7d\n",
    .part (.among [Scan.start]) (.among [Scan.start])
      (framed (String.join (sk.callbacks.map Callback.text))),
    .part (.among [Scan.start]) (.among [Scan.start])
      (framed (String.join (sk.publishTasks.map PublishTask.text))),
    .lit "\n",
    .part (.among [Scan.start]) (.among [Scan.start])
      (String.join (sk.receiveTasks.map ReceiveTask.text)),
    .lit loopText,
    .part (.among [Scan.start]) (.among [Scan.start]) (String.join (sk.routines.map Routine.text)),
    .part (.among [Scan.start]) (.among [Scan.start])
      (String.join (sk.taskBodies.map TaskBody.text))]

theorem Program.text_eq (sk : Program) : sk.text = render sk.pieces := rfl

def paramNotePieces (name type description : String) : List Piece :=
  [.lit "        // ", .doc name, .lit "(", .doc type, .lit ") - ", .doc description, .lit "\n"]

theorem paramNote_text_eq (name type description : String) :
    "        // " ++ name ++ "(" ++ type ++ ") - " ++ description ++ "\n" =
      render (paramNotePieces name type description) := by
  simp only [paramNotePieces, render, List.map_cons, List.map_nil, Piece.lit, Piece.doc,
    String.join_cons, String.join_nil, String.append_empty, String.append_assoc]

def routineCommentPieces (id parent inputs outputs qualifications contributions hardware : String) :
    List Piece :=
  [.lit "    // Function ID: ", .doc id, .lit "\n", .lit "    // Parent ID: ", .doc parent, .lit "\n",
   .lit "    // Input Parameters:\n", .part (.among [Scan.start]) (.among [Scan.start]) inputs,
   .lit "    // Output Parameters:\n", .part (.among [Scan.start]) (.among [Scan.start]) outputs,
   .lit "    // Qualification Array:\n", .lit "    // ", .doc qualifications, .lit "\n",
   .lit "    // Contribution Array:\n", .lit "    // ", .doc contributions, .lit "\n",
   .part (.among [Scan.start]) (.among [Scan.start, Scan.inComment]) hardware]

theorem routineComments_text_eq (id parent inputs outputs qualifications contributions
    hardware : String) :
    "    // Function ID: " ++ id ++ "\n" ++ "    // Parent ID: " ++ parent ++ "\n" ++
      "    // Input Parameters:\n" ++ inputs ++ "    // Output Parameters:\n" ++ outputs ++
      "    // Qualification Array:\n" ++ "    // " ++ qualifications ++ "\n" ++
      "    // Contribution Array:\n" ++ "    // " ++ contributions ++ "\n" ++ hardware =
      render (routineCommentPieces id parent inputs outputs qualifications contributions
        hardware) := by
  simp only [routineCommentPieces, render, List.map_cons, List.map_nil, Piece.lit, Piece.doc,
    Piece.part, String.join_cons, String.join_nil, String.append_empty, String.append_assoc]

def headerPieces (id parent name description : String) : List Piece :=
  [.lit "// CPC ID: ", .doc id, .lit "\n", .lit "// Parent ID: ", .doc parent, .lit "\n",
   .lit "// Name: ", .doc name, .lit "\n", .lit "// Description: ", .doc description, .lit "\n"]

theorem header_text_eq (id parent name description : String) :
    "// CPC ID: " ++ id ++ "\n" ++ "// Parent ID: " ++ parent ++ "\n" ++ "// Name: " ++ name ++
      "\n" ++ "// Description: " ++ description ++ "\n" =
      render (headerPieces id parent name description) := by
  simp only [headerPieces, render, List.map_cons, List.map_nil, Piece.lit, Piece.doc,
    String.join_cons, String.join_nil, String.append_empty, String.append_assoc]

/-- Every template may hold its documentation where it stands, and leads from where its text
starts to where it ends. -/
structure TemplatesChecked : Prop where
  modeCase : ∀ indent (c : ModeCase),
    Checked (.among [Scan.start]) (.among [Scan.start]) (c.pieces indent)
  modeSwitch : ∀ indent (sw : ModeSwitch), Checked .settled (.among [Scan.start]) (sw.pieces indent)
  modeDecl : ∀ d : ModeDecl, Checked (.among [Scan.start]) (.among [Scan.start, Scan.inComment]) d.pieces
  variableLine : ∀ indent statement (v : Variable),
    Checked (.among [Scan.start]) (.among [Scan.start]) (v.linePieces indent statement)
  invalidStruct : Checked (.among [Scan.start]) (.among [Scan.start]) [.lit invalidStructure]
  structDecl : ∀ mode owner members,
    Checked (.among [Scan.start]) (.among [Scan.start]) (StructDecl.structPieces mode owner members)
  taskBody : ∀ tb : TaskBody, Checked (.among [Scan.start]) (.among [Scan.start]) tb.pieces
  taskOpening : ∀ tb : TaskBody, Checked .any (.among [Scan.inComment]) (tb.pieces.take 24)
  callback : ∀ cb : Callback, Checked (.among [Scan.start]) (.among [Scan.start]) cb.pieces
  publishTask : ∀ pt : PublishTask, Checked (.among [Scan.start]) (.among [Scan.start]) pt.pieces
  receiveTask : ∀ rt : ReceiveTask, Checked (.among [Scan.start]) (.among [Scan.start]) rt.pieces
  routine : ∀ r : Routine, Checked (.among [Scan.start]) (.among [Scan.start]) r.pieces
  paramNote : ∀ name type description,
    Checked (.among [Scan.start]) (.among [Scan.start]) (paramNotePieces name type description)
  routineComments : ∀ id parent inputs outputs qualifications contributions hardware,
    Checked (.among [Scan.start]) (.among [Scan.start, Scan.inComment])
      (routineCommentPieces id parent inputs outputs qualifications contributions hardware)
  header : ∀ id parent name description,
    Checked (.among [Scan.start]) (.among [Scan.start]) (headerPieces id parent name description)
  program : ∀ sk : Program, Checked (.among [Scan.start]) .any sk.pieces

/-- The shapes of a template's pieces are those of every instance, so each template is checked
once, by the kernel, for all of them. -/
theorem templatesChecked : TemplatesChecked := by
  constructor <;> intros <;>
    simp only [Checked, ModeCase.pieces, ModeSwitch.pieces, ModeDecl.pieces, Variable.linePieces,
      StructDecl.structPieces, TaskBody.pieces, Callback.pieces, PublishTask.pieces,
      ReceiveTask.pieces, Routine.pieces, paramNotePieces, routineCommentPieces, headerPieces,
      Program.pieces, List.take, List.map_cons, List.map_nil, Piece.lit, Piece.value, Piece.same,
      Piece.code, Piece.doc, Piece.part] <;>
    decide +kernel

/-! ### Operation modes -/

/-- Two mode cases alike but for their documentation. -/
structure ModeCase.Twin (c c' : ModeCase) : Prop where
  code : c'.code = c.code
  plain : Plain c.code
  name : CommentSafe c.name
  name' : CommentSafe c'.name
  description : CommentSafe c.description
  description' : CommentSafe c'.description

theorem ModeCase.Twin.reads {c c' : ModeCase} (twin : c.Twin c') {indent : String}
    (plain : Plain indent) :
    Reads (.among [Scan.start]) (.among [Scan.start]) (c.text indent) (c'.text indent) := by
  rw [ModeCase.text_eq, ModeCase.text_eq]
  apply reads_of_check_within
  · simp [ModeCase.pieces, twin.code, twin.plain, twin.name, twin.name', twin.description,
      twin.description', plain]
  · exact templatesChecked.modeCase indent c

/-- Two switches alike but for the documentation of their cases. -/
structure ModeSwitch.Twin (sw sw' : ModeSwitch) : Prop where
  ident : sw'.ident = sw.ident
  plain : Plain sw.ident
  cases : List.Forall₂ ModeCase.Twin sw.cases sw'.cases

theorem ModeSwitch.Twin.reads {sw sw' : ModeSwitch} (twin : sw.Twin sw') {indent : String}
    (plain : Plain indent) :
    Reads .settled (.among [Scan.start]) (sw.text indent) (sw'.text indent) := by
  have cases : Reads (.among [Scan.start]) (.among [Scan.start])
      (String.join (sw.cases.map (ModeCase.text indent)))
      (String.join (sw'.cases.map (ModeCase.text indent))) := by
    apply Reads.join
    rw [List.forall₂_map_left_iff, List.forall₂_map_right_iff]
    exact twin.cases.imp fun _ _ caseTwin => caseTwin.reads plain
  rw [ModeSwitch.text_eq, ModeSwitch.text_eq]
  apply reads_of_check_within
  · simp [ModeSwitch.pieces, twin.ident, twin.plain, plain, cases]
  · exact templatesChecked.modeSwitch indent sw

theorem switchText_reads {sw sw' : Option ModeSwitch} (twin : Option.Rel ModeSwitch.Twin sw sw')
    {indent : String} (plain : Plain indent) :
    Reads .settled .settled (switchText indent sw) (switchText indent sw') := by
  cases twin with
  | none => exact Reads.empty _
  | some twin => exact (twin.reads plain).mono (Known.within_refl _) (by decide)

/-- Two mode variables alike but for the name of their first mode. -/
structure ModeDecl.Twin (d d' : ModeDecl) : Prop where
  ident : d'.ident = d.ident
  code : d'.code = d.code
  plainIdent : Plain d.ident
  plainCode : Plain d.code
  modeName : CommentSafe d.modeName
  modeName' : CommentSafe d'.modeName

theorem ModeDecl.Twin.reads {d d' : ModeDecl} (twin : d.Twin d') :
    Reads (.among [Scan.start]) (.among [Scan.start, Scan.inComment]) d.text d'.text := by
  rw [ModeDecl.text_eq, ModeDecl.text_eq]
  apply reads_of_check_within
  · simp [ModeDecl.pieces, twin.ident, twin.code, twin.plainIdent, twin.plainCode, twin.modeName,
      twin.modeName']
  · exact templatesChecked.modeDecl d

theorem ModeDecl.reads_intercalate {ds ds' : List ModeDecl} (twins : List.Forall₂ ModeDecl.Twin ds ds') :
    Reads (.among [Scan.start]) (.among [Scan.start, Scan.inComment])
      ("\n".intercalate (ds.map ModeDecl.text)) ("\n".intercalate (ds'.map ModeDecl.text)) := by
  apply Reads.intercalate reads_newline (by decide)
  rw [List.forall₂_map_left_iff, List.forall₂_map_right_iff]
  exact twins.imp fun _ _ twin => twin.reads

/-! ### Variables and data structures -/

/-- A C type whose statements stay in code: its name, initial value and length leave the scanner
outside literals. -/
structure CType.Fits (t : CType) : Prop where
  name : Calm t.name
  initial : Calm t.initial
  length : ∀ n ∈ t.length, Calm (toString n)

theorem CType.fits_of_known {name : String} {t : CType} (known : CType.known? name = some t) :
    t.Fits := by
  unfold CType.known? at known
  split at known <;> cases known <;>
    exact ⟨by decide, by decide, fun n member => by cases member <;> decide⟩

theorem CType.fits_of_plain {name : String} (plain : Plain name) : (⟨name, "", none⟩ : CType).Fits :=
  ⟨plain.calm, (by decide : Calm ""), fun _ member => by cases member⟩

/-- Two variables alike but for their descriptions. -/
structure Variable.Twin (v v' : Variable) : Prop where
  ctype : v'.ctype = v.ctype
  name : v'.name = v.name
  fits : v.ctype.Fits
  plain : Plain v.name
  description : CommentSafe v.description
  description' : CommentSafe v'.description

theorem Variable.Twin.statement_eq {v v' : Variable} (twin : v.Twin v') (mode : VarMode) :
    v'.statement mode = v.statement mode := by
  unfold Variable.statement
  rw [twin.ctype, twin.name]

theorem Variable.statement_calm {v : Variable} (fits : v.ctype.Fits) (plain : Plain v.name) :
    ∀ (mode : VarMode), ∀ s ∈ v.statement mode, Calm s := by
  have space : Calm " " := by decide
  intro mode s member
  cases mode with
  | init =>
    simp only [Variable.statement, Option.mem_def, Option.some.injEq] at member
    subst member
    refine ((fits.name.append space).append plain.calm).append ?_
    split
    · decide
    · exact (by decide : Calm " = ").append fits.initial
  | assign =>
    simp only [Variable.statement, Option.mem_def] at member
    split at member
    · cases member
    · split at member <;> simp only [Option.some.injEq] at member <;> subst member
      · exact ((((by decide : Calm "strcpy(").append plain.calm).append (by decide)).append
          fits.initial).append (by decide)
      · exact ((plain.calm.append (by decide)).append fits.initial)
  | declare =>
    simp only [Variable.statement, Option.mem_def] at member
    split at member <;> simp only [Option.some.injEq] at member <;> subst member
    · rename_i n length
      exact ((((fits.name.append space).append plain.calm).append (by decide)).append
        (fits.length n (by simp [length]))).append (by decide)
    · exact (fits.name.append space).append plain.calm
  | silent => cases member

theorem Variable.Twin.line_reads {v v' : Variable} (twin : v.Twin v') {indent : String}
    (plain : Plain indent) (mode : VarMode) :
    Option.Rel (Reads (.among [Scan.start]) (.among [Scan.start]))
      (v.line indent mode) (v'.line indent mode) := by
  unfold Variable.line
  rw [twin.statement_eq]
  cases stated : v.statement mode with
  | none => exact .none
  | some s =>
    have calm := Variable.statement_calm twin.fits twin.plain mode s stated
    have reads : Reads (.among [Scan.start]) (.among [Scan.start])
        (render (v.linePieces indent s)) (render (v'.linePieces indent s)) := by
      apply reads_of_check_within
      · simp [Variable.linePieces, plain, Reads.of_calm calm, twin.description, twin.description']
      · exact templatesChecked.variableLine indent s v
    refine .some ?_
    simpa [Variable.linePieces, render, Piece.lit, Piece.value, Piece.part, Piece.doc,
      String.append_assoc] using reads

theorem Variable.reads_lines {vs vs' : List Variable} (twins : List.Forall₂ Variable.Twin vs vs')
    {indent : String} (plain : Plain indent) (mode : VarMode) :
    Reads (.among [Scan.start]) (.among [Scan.start])
      (String.join (vs.filterMap (Variable.line indent mode)))
      (String.join (vs'.filterMap (Variable.line indent mode))) :=
  Reads.join (twins.filterMap fun _ _ twin => twin.line_reads plain mode)

/-- Two data structures alike but for the descriptions of their members. -/
inductive StructDecl.Twin : StructDecl → StructDecl → Prop
  | invalid : Twin .invalid .invalid
  | struct {owner : String} {members members' : List Variable} (plain : Plain owner)
      (twins : List.Forall₂ Variable.Twin members members') :
      Twin (.struct owner members) (.struct owner members')

theorem StructDecl.Twin.reads {d d' : StructDecl} (twin : d.Twin d') (mode : VarMode) :
    Reads (.among [Scan.start]) (.among [Scan.start]) (d.text mode) (d'.text mode) := by
  cases twin with
  | invalid =>
    simpa [StructDecl.text, render, Piece.lit] using
      reads_of_check_within (.cons (.fixed invalidStructure) .nil) templatesChecked.invalidStruct
  | @struct owner members members' plain twins =>
    have reads : Reads (.among [Scan.start]) (.among [Scan.start])
        (render (structPieces mode owner members)) (render (structPieces mode owner members')) := by
      apply reads_of_check_within
      · simp [structPieces, plain, Variable.reads_lines twins (by decide : Plain "    ") mode]
      · exact templatesChecked.structDecl mode owner members
    simpa [StructDecl.text, structPieces, render, Piece.lit, Piece.value, Piece.part,
      String.append_assoc] using reads

theorem StructDecl.reads_intercalate {ds ds' : List StructDecl}
    (twins : List.Forall₂ StructDecl.Twin ds ds') (mode : VarMode) :
    Reads (.among [Scan.start]) (.among [Scan.start])
      ("\n".intercalate (ds.map (StructDecl.text mode)))
      ("\n".intercalate (ds'.map (StructDecl.text mode))) := by
  apply Reads.intercalate (reads_newline.mono (by decide) (Known.within_refl _)) (by decide)
  rw [List.forall₂_map_left_iff, List.forall₂_map_right_iff]
  exact twins.imp fun _ _ twin => twin.reads mode

/-! ### Tasks -/

/-- Two tasks alike but for their parent ids, qualifications, contributions and the
documentation of their switches. -/
structure TaskBody.Twin (tb tb' : TaskBody) : Prop where
  owner : tb'.owner = tb.owner
  interval : tb'.interval = tb.interval
  id : tb'.id = tb.id
  logic : tb'.logic = tb.logic
  plainOwner : Plain tb.owner
  plainId : Plain tb.id
  parent : CommentSafe tb.parent
  parent' : CommentSafe tb'.parent
  qualifications : CommentSafe tb.qualifications
  qualifications' : CommentSafe tb'.qualifications
  contributions : CommentSafe tb.contributions
  contributions' : CommentSafe tb'.contributions
  switch : Option.Rel ModeSwitch.Twin tb.switch tb'.switch

theorem TaskBody.Twin.reads {tb tb' : TaskBody} (twin : tb.Twin tb') :
    Reads (.among [Scan.start]) (.among [Scan.start]) tb.text tb'.text := by
  rw [TaskBody.text_eq, TaskBody.text_eq]
  apply reads_of_check_within
  · simp [TaskBody.pieces, twin.owner, twin.interval, twin.id, twin.logic, twin.plainOwner,
      twin.plainId, twin.parent, twin.parent', twin.qualifications, twin.qualifications',
      twin.contributions, twin.contributions',
      switchText_reads twin.switch (by decide : Plain "        ")]
  · exact templatesChecked.taskBody tb

/-! ### Publishers and subscribers -/

/-- Two callbacks alike but for the documentation of their switches. -/
structure Callback.Twin (cb cb' : Callback) : Prop where
  owner : cb'.owner = cb.owner
  fields : cb'.fields = cb.fields
  switch : Option.Rel ModeSwitch.Twin cb.switch cb'.switch

theorem Callback.Twin.reads {cb cb' : Callback} (twin : cb.Twin cb') :
    Reads (.among [Scan.start]) (.among [Scan.start]) cb.text cb'.text := by
  rw [Callback.text_eq, Callback.text_eq]
  apply reads_of_check_within
  · simp [Callback.pieces, twin.owner, twin.fields,
      switchText_reads twin.switch (by decide : Plain "        ")]
  · exact templatesChecked.callback cb

/-- Two publishing tasks alike but for their notes and the documentation of their switches. -/
structure PublishTask.Twin (pt pt' : PublishTask) : Prop where
  owner : pt'.owner = pt.owner
  title : pt'.title = pt.title
  interval : pt'.interval = pt.interval
  fields : pt'.fields = pt.fields
  notes : Reads (.among [Scan.start]) (.among [Scan.start, Scan.inComment]) pt.notes pt'.notes
  switch : Option.Rel ModeSwitch.Twin pt.switch pt'.switch

theorem PublishTask.Twin.reads {pt pt' : PublishTask} (twin : pt.Twin pt') :
    Reads (.among [Scan.start]) (.among [Scan.start]) pt.text pt'.text := by
  rw [PublishTask.text_eq, PublishTask.text_eq]
  apply reads_of_check_within
  · simp [PublishTask.pieces, twin.owner, twin.title, twin.interval, twin.fields, twin.notes,
      switchText_reads twin.switch (by decide : Plain "    ")]
  · exact templatesChecked.publishTask pt

/-- Two receiving tasks alike but for their notes. -/
structure ReceiveTask.Twin (rt rt' : ReceiveTask) : Prop where
  owner : rt'.owner = rt.owner
  interval : rt'.interval = rt.interval
  notes : Reads (.among [Scan.start]) (.among [Scan.start, Scan.inComment]) rt.notes rt'.notes

theorem ReceiveTask.Twin.reads {rt rt' : ReceiveTask} (twin : rt.Twin rt') :
    Reads (.among [Scan.start]) (.among [Scan.start]) rt.text rt'.text := by
  rw [ReceiveTask.text_eq, ReceiveTask.text_eq]
  apply reads_of_check_within
  · simp [ReceiveTask.pieces, twin.owner, twin.interval, twin.notes]
  · exact templatesChecked.receiveTask rt

/-! ### Routines -/

/-- Two routines alike but for their comments, the descriptions of their outputs and the
documentation of their switches. -/
structure Routine.Twin (r r' : Routine) : Prop where
  name : r'.name = r.name
  params : r'.params = r.params
  modeCode : r'.modeCode = r.modeCode
  comments : Reads (.among [Scan.start]) (.among [Scan.start, Scan.inComment]) r.comments r'.comments
  outputs : List.Forall₂ Variable.Twin r.outputs r'.outputs
  switch : Option.Rel ModeSwitch.Twin r.switch r'.switch
  resources : r'.resources = r.resources

theorem Routine.signature_endsClean (r : Routine) : EndsClean r.signature :=
  EndsClean.append_right _ (by decide) (by decide)

theorem Routine.Twin.reads {r r' : Routine} (twin : r.Twin r') :
    Reads (.among [Scan.start]) (.among [Scan.start]) r.text r'.text := by
  have signature : r'.signature = r.signature := by
    unfold Routine.signature
    rw [twin.name, twin.params, twin.modeCode]
  have outputs : Reads (.among [Scan.start]) (.among [Scan.start])
      (" ".intercalate (r.outputs.filterMap (Variable.line "   " .assign)))
      (" ".intercalate (r'.outputs.filterMap (Variable.line "   " .assign))) := by
    apply Reads.intercalate _ (Known.within_refl _)
    · exact twin.outputs.filterMap fun _ _ varTwin => varTwin.line_reads (by decide) .assign
    · intro s hs
      simp only [Known.Holds, List.mem_singleton] at hs
      subst hs
      exact ⟨rfl, List.mem_singleton.mpr rfl⟩
  rw [Routine.text_eq, Routine.text_eq]
  apply reads_of_check_within
  · simp [Routine.pieces, signature, r.signature_endsClean, twin.comments, outputs, twin.resources,
      switchText_reads twin.switch (by decide : Plain "    ")]
  · exact templatesChecked.routine r

/-! ### The sketch -/

theorem framed_reads {a a' : String}
    (reads : Reads (.among [Scan.start]) (.among [Scan.start]) a a') (empty : a'.isEmpty = a.isEmpty) :
    Reads (.among [Scan.start]) (.among [Scan.start]) (framed a) (framed a') := by
  have newline : Reads (.among [Scan.start]) (.among [Scan.start]) "\n" "\n" :=
    reads_newline.mono (by decide) (Known.within_refl _)
  unfold framed
  rw [empty]
  split
  · exact Reads.empty _
  · exact (newline.append reads).append newline

theorem join_isEmpty_eq {α β : Type} {R : α → β → Prop} {f : α → String} {g : β → String}
    (filled : ∀ x, f x ≠ "") (filled' : ∀ y, g y ≠ "") :
    ∀ {xs : List α} {ys : List β}, List.Forall₂ R xs ys →
      (String.join (ys.map g)).isEmpty = (String.join (xs.map f)).isEmpty
  | [], [], .nil => rfl
  | x :: _, y :: _, .cons _ _ => by
    simp only [List.map_cons, String.join_cons, String.isEmpty_eq_false_iff.mpr, ne_eq,
      String.append_eq_empty_iff, filled x, filled' y, false_and, not_false_eq_true]

theorem Callback.text_ne_empty (cb : Callback) : cb.text ≠ "" := by
  unfold Callback.text
  simp [String.append_eq_empty_iff]

theorem PublishTask.text_ne_empty (pt : PublishTask) : pt.text ≠ "" := by
  unfold PublishTask.text
  simp [String.append_eq_empty_iff]

/-- Two sketches alike but for their documentation: equal sections where no documentation
stands, and twins where it does. -/
structure Program.Twin (sk sk' : Program) : Prop where
  header : Reads (.among [Scan.start]) (.among [Scan.start]) sk.header sk'.header
  clients : sk'.clients = sk.clients
  topics : sk'.topics = sk.topics
  goals : sk'.goals = sk.goals
  outputs : List.Forall₂ Variable.Twin sk.outputs sk'.outputs
  modes : List.Forall₂ ModeDecl.Twin sk.modes sk'.modes
  structs : List.Forall₂ StructDecl.Twin sk.structs sk'.structs
  sendHandles : sk'.sendHandles = sk.sendHandles
  receiveHandles : sk'.receiveHandles = sk.receiveHandles
  connections : sk'.connections = sk.connections
  creations : sk'.creations = sk.creations
  callbacks : List.Forall₂ Callback.Twin sk.callbacks sk'.callbacks
  publishTasks : List.Forall₂ PublishTask.Twin sk.publishTasks sk'.publishTasks
  receiveTasks : List.Forall₂ ReceiveTask.Twin sk.receiveTasks sk'.receiveTasks
  routines : List.Forall₂ Routine.Twin sk.routines sk'.routines
  taskBodies : List.Forall₂ TaskBody.Twin sk.taskBodies sk'.taskBodies

theorem reads_join_of_twins {α : Type} {T : α → α → Prop} {text : α → String}
    (reads : ∀ x y, T x y → Reads (.among [Scan.start]) (.among [Scan.start]) (text x) (text y))
    {xs ys : List α} (twins : List.Forall₂ T xs ys) :
    Reads (.among [Scan.start]) (.among [Scan.start])
      (String.join (xs.map text)) (String.join (ys.map text)) := by
  apply Reads.join
  rw [List.forall₂_map_left_iff, List.forall₂_map_right_iff]
  exact twins.imp reads

/-- Two sketches alike but for their documentation read alike from the start: they are equal
once their line comments are removed. -/
theorem Program.Twin.stripLineComments_eq {sk sk' : Program} (twin : sk.Twin sk') :
    stripLineComments sk.text = stripLineComments sk'.text := by
  have callbacksEmpty : (String.join (sk'.callbacks.map Callback.text)).isEmpty =
      (String.join (sk.callbacks.map Callback.text)).isEmpty :=
    join_isEmpty_eq Callback.text_ne_empty Callback.text_ne_empty twin.callbacks
  have callbacks : Reads (.among [Scan.start]) (.among [Scan.start])
      (framed (String.join (sk.callbacks.map Callback.text)))
      (framed (String.join (sk'.callbacks.map Callback.text))) :=
    framed_reads (reads_join_of_twins (fun _ _ twin => Callback.Twin.reads twin) twin.callbacks) callbacksEmpty
  have publishTasksEmpty : (String.join (sk'.publishTasks.map PublishTask.text)).isEmpty =
      (String.join (sk.publishTasks.map PublishTask.text)).isEmpty :=
    join_isEmpty_eq PublishTask.text_ne_empty PublishTask.text_ne_empty twin.publishTasks
  have publishTasks : Reads (.among [Scan.start]) (.among [Scan.start])
      (framed (String.join (sk.publishTasks.map PublishTask.text)))
      (framed (String.join (sk'.publishTasks.map PublishTask.text))) :=
    framed_reads (reads_join_of_twins (fun _ _ twin => PublishTask.Twin.reads twin) twin.publishTasks) publishTasksEmpty
  have reads : Reads (.among [Scan.start]) .any (render sk.pieces) (render sk'.pieces) := by
    apply reads_of_check_within
    · simp [Program.pieces, twin.header, twin.clients, twin.topics, twin.goals, twin.sendHandles,
        twin.receiveHandles, twin.connections, twin.creations, callbacks, publishTasks,
        Variable.reads_lines twin.outputs (by decide : Plain "") .init,
        ModeDecl.reads_intercalate twin.modes, StructDecl.reads_intercalate twin.structs .declare,
        reads_join_of_twins (fun _ _ twin => ReceiveTask.Twin.reads twin) twin.receiveTasks,
        reads_join_of_twins (fun _ _ twin => Routine.Twin.reads twin) twin.routines,
        reads_join_of_twins (fun _ _ twin => TaskBody.Twin.reads twin) twin.taskBodies]
    · exact templatesChecked.program sk
  rw [Program.text_eq, Program.text_eq]
  exact stripLineComments_eq_of_reads reads

end SketchGen.Sketch
