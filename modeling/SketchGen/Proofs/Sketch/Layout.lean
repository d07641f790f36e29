import SketchGen.Sketch.Program
import SketchGen.Proofs.Occurrence

namespace SketchGen.Sketch

open SketchGen.Text

/-! Where a sketch declares its symbols. Each section writes the declaration of its items'
symbols as one operand of its text, and each section's text is one of the sketch's parts, or
the non-empty body of a part under a heading: so the declaration occurs in the sketch's text.
Occurrence in a rendered section is found by descending the left-nested appends of its text to
the operand, comparing operands only up to reducible unfolding. -/

def Program.Declares (sk : Program) (s : Symbol) : Prop := Occurs s.declaration sk.text

theorem Symbol.declaration_ne_empty (s : Symbol) : s.declaration ≠ "" := by
  cases s <;> unfold Symbol.declaration <;> simp [String.append_eq_empty_iff]

/-! ### Headings, frames and titles -/

theorem occurs_headed {x part : String} (heading : String) (h : Occurs x part) (nonempty : x ≠ "") :
    Occurs x (headed heading part) := by
  unfold headed
  split
  · rename_i empty
    exact absurd (String.isEmpty_iff.mp empty) (h.ne_empty nonempty)
  · exact (h.append_right _).append_left _

theorem occurs_framed {x part : String} (h : Occurs x part) (nonempty : x ≠ "") :
    Occurs x (framed part) := by
  unfold framed
  split
  · rename_i empty
    exact absurd (String.isEmpty_iff.mp empty) (h.ne_empty nonempty)
  · exact (h.append_right _).append_left _

theorem mem_titled {x : String} {lines : List String} (title : String) (member : x ∈ lines) :
    x ∈ titled title lines := by
  unfold titled
  split
  · rename_i empty
    exact absurd (List.isEmpty_iff.mp empty) (List.ne_nil_of_mem member)
  · exact List.mem_cons_of_mem title member

theorem occurs_joinLines {x : String} {lines : List String} (member : x ∈ lines) :
    Occurs x (joinLines lines) := occurs_intercalate_of_mem "\n" member

/-! ### The declarations in each section's items -/

theorem TaskDecl.occurs_goalFlag (d : TaskDecl) :
    Occurs (Symbol.goalFlag d.owner).declaration d.text := by
  unfold TaskDecl.text
  repeat (first | with_reducible exact occurs_append_left_self _ _ |
    with_reducible exact occurs_append_right_self _ _ | with_reducible apply Occurs.append_left)

theorem TaskDecl.occurs_taskHandle (d : TaskDecl) :
    Occurs (Symbol.taskHandle d.owner).declaration d.text := by
  unfold TaskDecl.text
  repeat (first | with_reducible exact occurs_append_right_self _ _ |
    with_reducible apply Occurs.append_left)

theorem Client.occurs_symbols (c : Client) :
    Occurs (Symbol.clientId c.owner).declaration c.text ∧
      Occurs (Symbol.wifiClient c.owner).declaration c.text ∧
      Occurs (Symbol.mqttClient c.owner).declaration c.text := by
  unfold Client.text
  refine ⟨?_, ?_, ?_⟩ <;>
    repeat (first | with_reducible exact occurs_append_left_self _ _ |
      with_reducible exact occurs_append_right_self _ _ | with_reducible apply Occurs.append_left)

theorem Topic.occurs_topic (t : Topic) : Occurs (Symbol.topic t.owner).declaration t.text := by
  unfold Topic.text
  repeat (first | with_reducible exact occurs_append_left_self _ _ |
    with_reducible apply Occurs.append_left)

theorem Callback.occurs_callback (cb : Callback) :
    Occurs (Symbol.callback cb.owner).declaration cb.text := by
  unfold Callback.text
  repeat (first | with_reducible exact occurs_append_right_self _ _ |
    with_reducible apply Occurs.append_left)

theorem PublishTask.occurs_taskFunction (pt : PublishTask) :
    Occurs (Symbol.taskFunction (publishTaskName pt.owner)).declaration pt.text := by
  dsimp only [PublishTask.text]
  repeat (first | with_reducible exact occurs_append_right_self _ _ |
    with_reducible apply Occurs.append_left)

theorem ReceiveTask.occurs_taskFunction (rt : ReceiveTask) :
    Occurs (Symbol.taskFunction (receiveTaskName rt.owner)).declaration rt.text := by
  dsimp only [ReceiveTask.text]
  repeat (first | with_reducible exact occurs_append_right_self _ _ |
    with_reducible apply Occurs.append_left)

theorem TaskBody.occurs_taskFunction (tb : TaskBody) :
    Occurs (Symbol.taskFunction tb.owner).declaration tb.text := by
  unfold TaskBody.text
  repeat (first | with_reducible exact occurs_append_right_self _ _ |
    with_reducible apply Occurs.append_left)

theorem Routine.occurs_routine (r : Routine) : Occurs (Symbol.routine r.name).declaration r.text := by
  have head : Occurs (Symbol.routine r.name).declaration r.signature := by
    unfold Routine.signature
    repeat (first | with_reducible exact occurs_append_left_self _ _ |
      with_reducible apply Occurs.append_left)
  refine head.trans ?_
  unfold Routine.text
  repeat (first | with_reducible exact occurs_append_right_self _ _ |
    with_reducible apply Occurs.append_left)

/-! ### The declarations in a sketch -/

section Program

variable {sk : Program}

theorem occurs_text_of_part {x part : String} (member : part ∈ sk.parts) (h : Occurs x part) :
    Occurs x sk.text := h.trans (occurs_join_of_mem member)

theorem declares_of_goal {d : TaskDecl} (member : d ∈ sk.goals) :
    sk.Declares (.goalFlag d.owner) ∧ sk.Declares (.taskHandle d.owner) := by
  have part : String.join (sk.goals.map TaskDecl.text) ∈ sk.parts := by simp [Program.parts]
  exact ⟨occurs_text_of_part part (occurs_join_map member d.occurs_goalFlag),
    occurs_text_of_part part (occurs_join_map member d.occurs_taskHandle)⟩

theorem declares_of_client {c : Client} (member : c ∈ sk.clients) :
    sk.Declares (.clientId c.owner) ∧ sk.Declares (.wifiClient c.owner) ∧
      sk.Declares (.mqttClient c.owner) := by
  have part : String.join (sk.clients.map Client.text) ∈ sk.parts := by simp [Program.parts]
  have declared {s : Symbol} (h : Occurs s.declaration c.text) : sk.Declares s :=
    occurs_text_of_part part (occurs_join_map member h)
  obtain ⟨clientId, wifi, mqtt⟩ := c.occurs_symbols
  exact ⟨declared clientId, declared wifi, declared mqtt⟩

theorem declares_of_sent_topic {t : Topic} (member : t ∈ sk.topics.sent) :
    sk.Declares (.topic t.owner) := by
  have part : sk.topics.text ∈ sk.parts := by simp [Program.parts]
  have line : t.text ∈ titled "// Comm Topics(Sender)" (sk.topics.sent.map Topic.text) ++
      titled "// Listener Topics(Receiver)" (sk.topics.received.map Topic.text) :=
    List.mem_append_left _ (mem_titled _ (List.mem_map_of_mem member))
  exact occurs_text_of_part part (t.occurs_topic.trans (occurs_joinLines line))

theorem declares_of_received_topic {t : Topic} (member : t ∈ sk.topics.received) :
    sk.Declares (.topic t.owner) := by
  have part : sk.topics.text ∈ sk.parts := by simp [Program.parts]
  have line : t.text ∈ titled "// Comm Topics(Sender)" (sk.topics.sent.map Topic.text) ++
      titled "// Listener Topics(Receiver)" (sk.topics.received.map Topic.text) :=
    List.mem_append_right _ (mem_titled _ (List.mem_map_of_mem member))
  exact occurs_text_of_part part (t.occurs_topic.trans (occurs_joinLines line))

theorem declares_of_sendHandle {n : String} (member : n ∈ sk.sendHandles) :
    sk.Declares (.taskHandle (publishTaskName n)) := by
  have part : headed "// Comm Thread Handles" (joinLines (sk.sendHandles.map fun n =>
      (Symbol.taskHandle (publishTaskName n)).declaration)) ∈ sk.parts := by simp [Program.parts]
  exact occurs_text_of_part part (occurs_headed _
    (occurs_joinLines (List.mem_map_of_mem member)) (Symbol.declaration_ne_empty _))

theorem declares_of_receiveHandle {n : String} (member : n ∈ sk.receiveHandles) :
    sk.Declares (.taskHandle (receiveTaskName n)) := by
  have part : headed "// Listener Thread Handles" (joinLines (sk.receiveHandles.map fun n =>
      (Symbol.taskHandle (receiveTaskName n)).declaration)) ∈ sk.parts := by simp [Program.parts]
  exact occurs_text_of_part part (occurs_headed _
    (occurs_joinLines (List.mem_map_of_mem member)) (Symbol.declaration_ne_empty _))

theorem declares_of_callback {cb : Callback} (member : cb ∈ sk.callbacks) :
    sk.Declares (.callback cb.owner) := by
  have part : framed (String.join (sk.callbacks.map Callback.text)) ∈ sk.parts := by
    simp [Program.parts]
  exact occurs_text_of_part part
    (occurs_framed (occurs_join_map member cb.occurs_callback) (Symbol.declaration_ne_empty _))

theorem declares_of_publishTask {pt : PublishTask} (member : pt ∈ sk.publishTasks) :
    sk.Declares (.taskFunction (publishTaskName pt.owner)) := by
  have part : framed (String.join (sk.publishTasks.map PublishTask.text)) ∈ sk.parts := by
    simp [Program.parts]
  exact occurs_text_of_part part
    (occurs_framed (occurs_join_map member pt.occurs_taskFunction) (Symbol.declaration_ne_empty _))

theorem declares_of_receiveTask {rt : ReceiveTask} (member : rt ∈ sk.receiveTasks) :
    sk.Declares (.taskFunction (receiveTaskName rt.owner)) := by
  have part : String.join (sk.receiveTasks.map ReceiveTask.text) ∈ sk.parts := by
    simp [Program.parts]
  exact occurs_text_of_part part (occurs_join_map member rt.occurs_taskFunction)

theorem declares_of_taskBody {tb : TaskBody} (member : tb ∈ sk.taskBodies) :
    sk.Declares (.taskFunction tb.owner) := by
  have part : String.join (sk.taskBodies.map TaskBody.text) ∈ sk.parts := by simp [Program.parts]
  exact occurs_text_of_part part (occurs_join_map member tb.occurs_taskFunction)

theorem declares_of_routine {r : Routine} (member : r ∈ sk.routines) :
    sk.Declares (.routine r.name) := by
  have part : String.join (sk.routines.map Routine.text) ∈ sk.parts := by simp [Program.parts]
  exact occurs_text_of_part part (occurs_join_map member r.occurs_routine)

end Program

end SketchGen.Sketch
