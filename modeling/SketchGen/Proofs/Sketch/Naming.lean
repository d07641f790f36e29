import Mathlib
import SketchGen.Sketch.Symbol

namespace SketchGen.Sketch

/-! Names made by gluing affixes to identifiers. A sketch names what it declares at file scope
by gluing fixed affixes to the identifiers of its component's children: `Task` in front of a
task's identifier for its handle and after it for its function, `ClientId`, `Client`,
`MqttClient` and `_topic` after a publisher's or subscriber's, `callback_` in front of a
subscriber's, `_GoalAchieved`, `_operation_mode` and `_data_structure` after an element's, and
`_` between a routine's identifier and an output's for the routine's output variables.

Distinct identifiers do not keep these names apart when an identifier can hide an affix: a
routine `n_data` with an output `structure` and a resource `n` both declare
`n_data_structure`, and a routine `pumpClient` is the network client of a publisher `pump`.
Identifiers without underscores and not starting with an ASCII capital hide none: such an
identifier ends at the first underscore of a name glued to it, and no name starts with `Task`
unless it is a handle. So a name can be read back to the kind it was made as, given the
routines' identifiers (`nameKind`), and within a kind the identifiers tell the names apart. -/

def cutUnderscore : List Char → List Char × Option (List Char)
  | [] => ([], none)
  | c :: rest =>
    if c = '_' then ([], some rest)
    else (c :: (cutUnderscore rest).1, (cutUnderscore rest).2)

/-- The kinds of file-scope names. -/
inductive NameKind where
  | handle
  | clientId
  | mqttClient
  | wifiClient
  | taskFunction
  | bare
  | output
  | goalFlag
  | mode
  | dataStructure
  | callback
  | topic
  | sideTask
  | other
deriving DecidableEq, Repr

/-- The kind a file-scope name reads back to, given the routines' identifiers. A name starting
with `Task` is a handle; one without an underscore is told by its ending; one with an underscore
by the text before it, a routine's identifier or `callback`, and the text after it. -/
def nameKind (routines : List String) (s : String) : NameKind :=
  if "Task".toList <+: s.toList then .handle
  else match cutUnderscore s.toList with
    | (_, none) =>
      if "ClientId".toList <:+ s.toList then .clientId
      else if "MqttClient".toList <:+ s.toList then .mqttClient
      else if "Client".toList <:+ s.toList then .wifiClient
      else if "Task".toList <:+ s.toList then .taskFunction
      else .bare
    | (front, some back) =>
      if String.ofList front ∈ routines then .output
      else if back = "GoalAchieved".toList then .goalFlag
      else if back = "operation_mode".toList then .mode
      else if back = "data_structure".toList then .dataStructure
      else if front = "callback".toList then .callback
      else if back = "topic".toList then .topic
      else if "Task".toList <:+ back then .sideTask
      else .other

/-- An identifier that no affix merges with: it has no underscore and starts with a character
that is not an ASCII capital. -/
structure Unglued (n : String) : Prop where
  underscore : '_' ∉ n.toList
  head : ∃ c rest, n.toList = c :: rest ∧ c.isUpper = false

def routineReserved : List String :=
  ["debug", "setup", "loop", "callback", "publishDependum", "receiveDependum"]

/-- A routine's identifier that no other name is: it is not reserved and does not end in the
affix words `Task`, `Client` and `ClientId`. -/
structure RoutineWord (f : String) : Prop where
  free : f ∉ routineReserved
  notTask : ¬ "Task".toList <:+ f.toList
  notClient : ¬ "Client".toList <:+ f.toList
  notClientId : ¬ "ClientId".toList <:+ f.toList

/-- A publisher's or subscriber's identifier whose names no other name is: it is not `callback`
and does not end in `Mqtt`. -/
structure ThreadWord (n : String) : Prop where
  notCallback : n ≠ "callback"
  notMqtt : ¬ "Mqtt".toList <:+ n.toList

/-! ### Cutting at the first underscore -/

theorem cutUnderscore_of_not_mem : ∀ {a : List Char}, '_' ∉ a → cutUnderscore a = (a, none)
  | [], _ => rfl
  | c :: rest, clear => by
    have other : c ≠ '_' := fun same => clear (same ▸ List.mem_cons_self)
    rw [cutUnderscore, if_neg other,
      cutUnderscore_of_not_mem fun mem => clear (List.mem_cons_of_mem c mem)]

theorem cutUnderscore_glued : ∀ {a : List Char}, '_' ∉ a → ∀ b,
    cutUnderscore (a ++ '_' :: b) = (a, some b)
  | [], _, b => by simp [cutUnderscore]
  | c :: rest, clear, b => by
    have other : c ≠ '_' := fun same => clear (same ▸ List.mem_cons_self)
    rw [List.cons_append, cutUnderscore, if_neg other,
      cutUnderscore_glued (fun mem => clear (List.mem_cons_of_mem c mem)) b]

theorem toList_glued (n : String) {affix : String} (back : List Char)
    (glue : affix.toList = '_' :: back) : (n ++ affix).toList = n.toList ++ '_' :: back := by
  rw [String.toList_append, glue]

theorem glued_inj {a a' b b' : List Char} (clear : '_' ∉ a) (clear' : '_' ∉ a')
    (same : a ++ '_' :: b = a' ++ '_' :: b') : a = a' ∧ b = b' := by
  have cut := congrArg cutUnderscore same
  rw [cutUnderscore_glued clear, cutUnderscore_glued clear'] at cut
  simpa using cut

/-! ### Facts about affixes -/

theorem Unglued.not_task_prefix {n : String} (u : Unglued n) (x : List Char) :
    ¬ "Task".toList <+: n.toList ++ x := by
  obtain ⟨c, rest, chars, lower⟩ := u.head
  rw [chars, List.cons_append]
  intro pre
  have first : c = 'T' := (List.cons_prefix_cons.mp pre).1.symm
  rw [first] at lower
  cases lower

theorem Unglued.ne_of_capital {n : String} (u : Unglued n) {w : List Char}
    (upper : w.head?.any Char.isUpper) : n.toList ≠ w := by
  obtain ⟨c, rest, chars, lower⟩ := u.head
  rintro rfl
  simp [chars, lower] at upper

theorem Unglued.ne_of_underscore {n : String} (u : Unglued n) {w : List Char} (under : '_' ∈ w) :
    n.toList ≠ w := by
  rintro rfl
  exact u.underscore under

theorem ne_of_task_suffix {back w : List Char} (task : "Task".toList <:+ back)
    (other : ¬ "Task".toList <:+ w) : back ≠ w := by
  rintro rfl
  exact other task

theorem not_suffix_of_getLast? {x y : List Char} (filled : x ≠ []) (filled' : y ≠ [])
    (differ : x.getLast? ≠ y.getLast?) (l : List Char) : ¬ x <:+ l ++ y := by
  rintro ⟨front, same⟩
  have last := congrArg List.getLast? same
  rw [List.getLast?_append_of_ne_nil _ filled, List.getLast?_append_of_ne_nil _ filled'] at last
  exact differ last

theorem not_task_prefix_of_head {c : Char} (other : c ≠ 'T') (rest : List Char) :
    ¬ "Task".toList <+: c :: rest := by
  rw [show "Task".toList = 'T' :: "ask".toList by decide]
  exact fun pre => other (List.cons_prefix_cons.mp pre).1.symm

/-! ### Reading names back -/

section Kinds

variable {routines : List String}

theorem nameKind_handle (x : String) : nameKind routines ("Task" ++ x) = .handle := by
  simp [nameKind]

theorem nameKind_of_plain {s : String} (notHandle : ¬ "Task".toList <+: s.toList)
    (clear : '_' ∉ s.toList) :
    nameKind routines s =
      if "ClientId".toList <:+ s.toList then .clientId
      else if "MqttClient".toList <:+ s.toList then .mqttClient
      else if "Client".toList <:+ s.toList then .wifiClient
      else if "Task".toList <:+ s.toList then .taskFunction
      else .bare := by
  rw [nameKind, if_neg notHandle, cutUnderscore_of_not_mem clear]

theorem nameKind_of_glued {s : String} {front back : List Char}
    (notHandle : ¬ "Task".toList <+: s.toList) (glued : s.toList = front ++ '_' :: back)
    (clear : '_' ∉ front) :
    nameKind routines s =
      if String.ofList front ∈ routines then .output
      else if back = "GoalAchieved".toList then .goalFlag
      else if back = "operation_mode".toList then .mode
      else if back = "data_structure".toList then .dataStructure
      else if front = "callback".toList then .callback
      else if back = "topic".toList then .topic
      else if "Task".toList <:+ back then .sideTask
      else .other := by
  rw [nameKind, if_neg notHandle, glued, cutUnderscore_glued clear]

variable {n : String} (u : Unglued n)
include u

theorem Unglued.clear_append {x : List Char} (clear : '_' ∉ x) : '_' ∉ n.toList ++ x := by
  simp [u.underscore, clear]

theorem nameKind_clientId : nameKind routines (n ++ "ClientId") = .clientId := by
  rw [nameKind_of_plain (by simpa using u.not_task_prefix _)
    (by simpa using u.clear_append (x := "ClientId".toList) (by decide))]
  simp

theorem nameKind_mqttClient : nameKind routines (n ++ "MqttClient") = .mqttClient := by
  rw [nameKind_of_plain (by simpa using u.not_task_prefix _)
    (by simpa using u.clear_append (x := "MqttClient".toList) (by decide))]
  rw [String.toList_append, if_neg (not_suffix_of_getLast? (by decide) (by decide) (by decide) _),
    if_pos (List.suffix_append _ _)]

theorem nameKind_wifiClient (plain : ¬ "Mqtt".toList <:+ n.toList) :
    nameKind routines (n ++ "Client") = .wifiClient := by
  rw [nameKind_of_plain (by simpa using u.not_task_prefix _)
    (by simpa using u.clear_append (x := "Client".toList) (by decide))]
  have mqtt : "MqttClient".toList = "Mqtt".toList ++ "Client".toList := by decide
  rw [String.toList_append, if_neg (not_suffix_of_getLast? (by decide) (by decide) (by decide) _),
    mqtt, if_neg (by rwa [List.suffix_append_self_iff]), if_pos (List.suffix_append _ _)]

theorem nameKind_taskFunction : nameKind routines (n ++ "Task") = .taskFunction := by
  rw [nameKind_of_plain (by simpa using u.not_task_prefix _)
    (by simpa using u.clear_append (x := "Task".toList) (by decide))]
  rw [String.toList_append, if_neg (not_suffix_of_getLast? (by decide) (by decide) (by decide) _),
    if_neg (not_suffix_of_getLast? (by decide) (by decide) (by decide) _),
    if_neg (not_suffix_of_getLast? (by decide) (by decide) (by decide) _),
    if_pos (List.suffix_append _ _)]

theorem nameKind_bare (word : RoutineWord n) : nameKind routines n = .bare := by
  have task := u.not_task_prefix []
  rw [List.append_nil] at task
  rw [nameKind_of_plain task u.underscore, if_neg word.notClientId,
    if_neg fun mqtt => word.notClient ((List.suffix_append "Mqtt".toList _).trans
      (by simpa [← List.append_assoc] using mqtt)),
    if_neg word.notClient, if_neg word.notTask]

theorem nameKind_goalFlag (other : n ∉ routines) :
    nameKind routines (n ++ "_GoalAchieved") = .goalFlag := by
  rw [nameKind_of_glued (by simpa using u.not_task_prefix _) (toList_glued n "GoalAchieved".toList (by decide))
    u.underscore, String.ofList_toList, if_neg other, if_pos rfl]

theorem nameKind_mode (other : n ∉ routines) :
    nameKind routines (n ++ "_operation_mode") = .mode := by
  rw [nameKind_of_glued (by simpa using u.not_task_prefix _) (toList_glued n "operation_mode".toList (by decide))
    u.underscore, String.ofList_toList, if_neg other, if_neg (by decide), if_pos rfl]

theorem nameKind_dataStructure (other : n ∉ routines) :
    nameKind routines (n ++ "_data_structure") = .dataStructure := by
  rw [nameKind_of_glued (by simpa using u.not_task_prefix _) (toList_glued n "data_structure".toList (by decide))
    u.underscore, String.ofList_toList, if_neg other, if_neg (by decide), if_neg (by decide),
    if_pos rfl]

theorem nameKind_topic (other : n ∉ routines) (thread : ThreadWord n) :
    nameKind routines (n ++ "_topic") = .topic := by
  have notCallback : n.toList ≠ "callback".toList := fun same =>
    thread.notCallback (String.toList_inj.mp same)
  rw [nameKind_of_glued (by simpa using u.not_task_prefix _) (toList_glued n "topic".toList (by decide))
    u.underscore, String.ofList_toList, if_neg other, if_neg (by decide), if_neg (by decide),
    if_neg (by decide), if_neg notCallback, if_pos rfl]

theorem nameKind_output (routine : n ∈ routines) (o : String) :
    nameKind routines (n ++ "_" ++ o) = .output := by
  have glued : (n ++ "_" ++ o).toList = n.toList ++ '_' :: o.toList := by
    rw [String.append_assoc, toList_glued n o.toList (by simp)]
  rw [nameKind_of_glued (by simpa using u.not_task_prefix _) glued u.underscore,
    String.ofList_toList, if_pos routine]

theorem nameKind_callback (free : "callback" ∉ routines) :
    nameKind routines ("callback_" ++ n) = .callback := by
  have glued : ("callback_" ++ n).toList = "callback".toList ++ '_' :: n.toList := by
    rw [String.toList_append, show "callback_".toList = "callback".toList ++ ['_'] by decide,
      List.append_assoc, List.singleton_append]
  rw [nameKind_of_glued (by rw [glued]; exact not_task_prefix_of_head (by decide) _) glued
    (by decide), String.ofList_toList, if_neg free, if_neg (u.ne_of_capital (by decide)),
    if_neg (u.ne_of_underscore (by decide)), if_neg (u.ne_of_underscore (by decide)), if_pos rfl]

end Kinds

/-- The function of a publishing or receiving task: a word ending in an underscore, an
identifier and `Task`. -/
theorem nameKind_sideTask {routines : List String} {w : String} {front : List Char}
    (glue : w.toList = front ++ ['_']) (clear : '_' ∉ front)
    (notHandle : ∀ rest, ¬ "Task".toList <+: front ++ rest)
    (free : String.ofList front ∉ routines) (notCallback : front ≠ "callback".toList)
    (x : String) : nameKind routines (w ++ x ++ "Task") = .sideTask := by
  have glued : (w ++ x ++ "Task").toList = front ++ '_' :: (x.toList ++ "Task".toList) := by
    simp [String.toList_append, glue]
  have task : "Task".toList <:+ x.toList ++ "Task".toList := List.suffix_append _ _
  rw [nameKind_of_glued (by rw [glued]; exact notHandle _) glued clear, if_neg free,
    if_neg (ne_of_task_suffix task (by decide)), if_neg (ne_of_task_suffix task (by decide)),
    if_neg (ne_of_task_suffix task (by decide)), if_neg notCallback,
    if_neg (ne_of_task_suffix task (by decide)), if_pos task]


/-! ### The names of a component's children -/

/-- The identifiers of a component's children, by role: its tasks, publishers, subscribers and
routines, the identifiers of each routine's outputs, and the elements with an operation mode
variable and with a data structure. -/
structure Naming where
  tasks : List String
  publishers : List String
  subscribers : List String
  routines : List (String × List String)
  modes : List String
  structs : List String

/-- Identifiers that give distinct names: the children's are distinct and hide no affix, no
routine's or thread's is a word that a name of another kind ends up as, each routine's outputs
are distinct, and the elements with a mode variable or a data structure are distinct and are
not routines. -/
structure Naming.Distinct (nm : Naming) : Prop where
  nodup : (nm.tasks ++ nm.publishers ++ nm.subscribers ++ nm.routines.map Prod.fst).Nodup
  unglued : ∀ n ∈ nm.tasks ++ nm.publishers ++ nm.subscribers ++ nm.routines.map Prod.fst ++
    nm.modes ++ nm.structs, Unglued n
  routineWords : ∀ f ∈ nm.routines.map Prod.fst, RoutineWord f
  threadWords : ∀ n ∈ nm.publishers ++ nm.subscribers, ThreadWord n
  outputs : ∀ ro ∈ nm.routines, ro.2.Nodup
  modes : nm.modes.Nodup ∧ ∀ m ∈ nm.modes, m ∉ nm.routines.map Prod.fst
  structs : nm.structs.Nodup ∧ ∀ x ∈ nm.structs, x ∉ nm.routines.map Prod.fst

def Naming.groups (nm : Naming) : List (NameKind × List String) := [
  (.bare, ["debug", "setup", "loop"] ++ nm.routines.map Prod.fst),
  (.output, nm.routines.flatMap fun ro => ro.2.map (ro.1 ++ "_" ++ ·)),
  (.topic, (nm.publishers ++ nm.subscribers).map (· ++ "_topic")),
  (.callback, nm.subscribers.map ("callback_" ++ ·)),
  (.clientId, (nm.subscribers ++ nm.publishers).map (· ++ "ClientId")),
  (.wifiClient, (nm.subscribers ++ nm.publishers).map (· ++ "Client")),
  (.mqttClient, (nm.subscribers ++ nm.publishers).map (· ++ "MqttClient")),
  (.goalFlag, nm.tasks.map (· ++ "_GoalAchieved")),
  (.handle, (nm.tasks ++ nm.publishers.map publishTaskName ++
    nm.subscribers.map receiveTaskName).map ("Task" ++ ·)),
  (.taskFunction, nm.tasks.map (· ++ "Task")),
  (.sideTask, (nm.publishers.map publishTaskName ++ nm.subscribers.map receiveTaskName).map
    (· ++ "Task")),
  (.mode, nm.modes.map (· ++ "_operation_mode")),
  (.dataStructure, nm.structs.map (· ++ "_data_structure"))]

def Naming.declared (nm : Naming) : List String :=
  (nm.subscribers ++ nm.publishers).flatMap
    (fun n => [n ++ "ClientId", n ++ "Client", n ++ "MqttClient"]) ++
  ["debug"] ++
  (nm.publishers ++ nm.subscribers).map (· ++ "_topic") ++
  nm.tasks.flatMap (fun t => [t ++ "_GoalAchieved", "Task" ++ t]) ++
  nm.routines.flatMap (fun ro => ro.2.map (ro.1 ++ "_" ++ ·)) ++
  nm.modes.map (· ++ "_operation_mode") ++
  nm.structs.map (· ++ "_data_structure") ++
  (nm.publishers.map publishTaskName).map ("Task" ++ ·) ++
  (nm.subscribers.map receiveTaskName).map ("Task" ++ ·) ++
  ["setup"] ++
  nm.subscribers.map ("callback_" ++ ·) ++
  (nm.publishers.map publishTaskName).map (· ++ "Task") ++
  (nm.subscribers.map receiveTaskName).map (· ++ "Task") ++
  ["loop"] ++
  nm.routines.map Prod.fst ++
  nm.tasks.map (· ++ "Task")

section Distinct

variable {nm : Naming} (distinct : nm.Distinct)
include distinct

theorem Naming.Distinct.unglued_of_mem {n : String}
    (member : n ∈ nm.tasks ∨ n ∈ nm.publishers ∨ n ∈ nm.subscribers ∨
      n ∈ nm.routines.map Prod.fst ∨ n ∈ nm.modes ∨ n ∈ nm.structs) : Unglued n :=
  distinct.unglued n (by simp only [List.mem_append]; tauto)

theorem Naming.Distinct.not_routine {n : String}
    (member : n ∈ nm.tasks ∨ n ∈ nm.publishers ∨ n ∈ nm.subscribers) :
    n ∉ nm.routines.map Prod.fst := by
  obtain ⟨-, -, apart⟩ := List.nodup_append.mp distinct.nodup
  exact fun routine => apart n (by simp only [List.mem_append]; tauto) n routine rfl

theorem Naming.Distinct.reserved_free {w : String} (reserved : w ∈ routineReserved) :
    w ∉ nm.routines.map Prod.fst :=
  fun routine => (distinct.routineWords w routine).free reserved

theorem Naming.Distinct.kind_of_mem_groups :
    ∀ g ∈ nm.groups, ∀ s ∈ g.2, nameKind (nm.routines.map Prod.fst) s = g.1 := by
  have thread : ∀ n ∈ nm.publishers ++ nm.subscribers, Unglued n ∧ ThreadWord n ∧
      n ∉ nm.routines.map Prod.fst := fun n member => by
    have sides : n ∈ nm.publishers ∨ n ∈ nm.subscribers := List.mem_append.mp member
    exact ⟨distinct.unglued_of_mem (by tauto), distinct.threadWords n member,
      distinct.not_routine (by tauto)⟩
  have sideWord : ∀ rest, ¬ "Task".toList <+: "publishDependum".toList ++ rest ∧
      ¬ "Task".toList <+: "receiveDependum".toList ++ rest := fun rest =>
    ⟨not_task_prefix_of_head (by decide) _, not_task_prefix_of_head (by decide) _⟩
  unfold Naming.groups
  simp only [List.mem_cons, List.not_mem_nil, or_false, forall_eq, List.mem_append,
    List.mem_map, List.mem_flatMap, or_imp, forall_and, forall_exists_index, and_imp,
    forall_apply_eq_imp_iff₂, Prod.exists]
  refine ⟨⟨?fixed, ?routines⟩, ?outputs, ⟨?sentTopics, ?receivedTopics⟩, ?callbacks,
    ⟨?subscriberIds, ?publisherIds⟩, ⟨?subscriberClients, ?publisherClients⟩,
    ⟨?subscriberMqtt, ?publisherMqtt⟩, ?goals, ⟨⟨?handles, ?publishHandles⟩, ?receiveHandles⟩,
    ?functions, ⟨?publishTasks, ?receiveTasks⟩, ?modes, ?structs⟩
  case fixed => exact ⟨rfl, rfl, rfl⟩
  case routines =>
    rintro _ f os member rfl
    have routine : f ∈ nm.routines.map Prod.fst := List.mem_map.mpr ⟨(f, os), member, rfl⟩
    exact nameKind_bare (distinct.unglued_of_mem (by tauto)) (distinct.routineWords f routine)
  case outputs =>
    rintro _ f os member o - rfl
    have routine : f ∈ nm.routines.map Prod.fst := List.mem_map.mpr ⟨(f, os), member, rfl⟩
    exact nameKind_output (distinct.unglued_of_mem (by tauto)) routine o
  case sentTopics | receivedTopics =>
    intro n member
    obtain ⟨u, word, other⟩ := thread n (by simp [member])
    exact nameKind_topic u other word
  case callbacks =>
    intro n member
    exact nameKind_callback (distinct.unglued_of_mem (by tauto))
      (distinct.reserved_free (by decide))
  case subscriberIds | publisherIds =>
    intro n member
    exact nameKind_clientId (thread n (by simp [member])).1
  case subscriberClients | publisherClients =>
    intro n member
    obtain ⟨u, word, -⟩ := thread n (by simp [member])
    exact nameKind_wifiClient u word.notMqtt
  case subscriberMqtt | publisherMqtt =>
    intro n member
    exact nameKind_mqttClient (thread n (by simp [member])).1
  case goals =>
    intro t member
    exact nameKind_goalFlag (distinct.unglued_of_mem (by tauto)) (distinct.not_routine (by tauto))
  case handles | publishHandles | receiveHandles =>
    intros
    exact nameKind_handle _
  case functions =>
    intro t member
    exact nameKind_taskFunction (distinct.unglued_of_mem (by tauto))
  case publishTasks =>
    intro p _
    exact nameKind_sideTask (by decide) (by decide) (sideWord · |>.1)
      (by simpa using distinct.reserved_free (by decide)) (by decide) p
  case receiveTasks =>
    intro s _
    exact nameKind_sideTask (by decide) (by decide) (sideWord · |>.2)
      (by simpa using distinct.reserved_free (by decide)) (by decide) s
  case modes =>
    intro m member
    exact nameKind_mode (distinct.unglued_of_mem (by tauto)) (distinct.modes.2 m member)
  case structs =>
    intro x member
    exact nameKind_dataStructure (distinct.unglued_of_mem (by tauto)) (distinct.structs.2 x member)

theorem Naming.Distinct.routines_nodup : (nm.routines.map Prod.fst).Nodup :=
  (List.nodup_append.mp distinct.nodup).2.1

theorem Naming.Distinct.outputs_nodup :
    (nm.routines.flatMap fun ro => ro.2.map (ro.1 ++ "_" ++ ·)).Nodup := by
  rw [List.nodup_flatMap]
  refine ⟨fun ro member => (distinct.outputs ro member).map fun a b same => by simpa using same,
    ?_⟩
  refine (List.pairwise_map.mp distinct.routines_nodup).imp_of_mem fun {ro ro'} mine theirs
    differ => ?_
  have routine := List.mem_map_of_mem (f := Prod.fst) mine
  have routine' := List.mem_map_of_mem (f := Prod.fst) theirs
  have clear := (distinct.unglued_of_mem (n := ro.1) (by tauto)).underscore
  have clear' := (distinct.unglued_of_mem (n := ro'.1) (by tauto)).underscore
  simp only [List.Disjoint, List.mem_map]
  rintro _ ⟨o, -, rfl⟩ ⟨o', -, same⟩
  have chars := congrArg String.toList same
  simp only [String.toList_append] at chars
  exact differ (String.toList_inj.mp (glued_inj clear' clear (by simpa using chars)).1).symm

theorem Naming.Distinct.sideNames_nodup :
    (nm.publishers.map publishTaskName ++ nm.subscribers.map receiveTaskName).Nodup ∧
      ∀ t ∈ nm.tasks, t ∉ nm.publishers.map publishTaskName ++
        nm.subscribers.map receiveTaskName := by
  obtain ⟨nodupTPS, -, -⟩ := List.nodup_append.mp distinct.nodup
  obtain ⟨nodupTP, nodupS, -⟩ := List.nodup_append.mp nodupTPS
  obtain ⟨-, nodupP, -⟩ := List.nodup_append.mp nodupTP
  refine ⟨List.nodup_append.mpr ⟨nodupP.map fun a b same => by simpa [publishTaskName] using same,
    nodupS.map fun a b same => by simpa [receiveTaskName] using same, ?_⟩, ?_⟩
  · simp only [List.mem_map]
    rintro _ ⟨p, -, rfl⟩ _ ⟨s, -, rfl⟩ same
    have first := congrArg (fun x : String => x.toList.head?) same
    simp [publishTaskName, receiveTaskName] at first
  · intro t task side
    have clear := (distinct.unglued_of_mem (n := t) (by tauto)).underscore
    simp only [List.mem_append, List.mem_map] at side
    rcases side with ⟨p, -, rfl⟩ | ⟨s, -, rfl⟩ <;>
      simp [publishTaskName, receiveTaskName] at clear

theorem Naming.Distinct.groups_nodup : ∀ g ∈ nm.groups, g.2.Nodup := by
  obtain ⟨nodupTPS, -, -⟩ := List.nodup_append.mp distinct.nodup
  obtain ⟨nodupTP, nodupS, -⟩ := List.nodup_append.mp nodupTPS
  obtain ⟨nodupT, -, -⟩ := List.nodup_append.mp nodupTP
  have nodupPS : (nm.publishers ++ nm.subscribers).Nodup :=
    nodupTPS.sublist ((List.sublist_append_right nm.tasks nm.publishers).append
      (List.Sublist.refl _))
  have nodupSP : (nm.subscribers ++ nm.publishers).Nodup := List.nodup_append_comm.mp nodupPS
  obtain ⟨nodupSide, apartSide⟩ := distinct.sideNames_nodup
  unfold Naming.groups
  simp only [List.mem_cons, List.not_mem_nil, or_false, forall_eq_or_imp, forall_eq]
  refine ⟨?bare, distinct.outputs_nodup, ?topics, ?callbacks, ?clientIds, ?clients,
    ?mqttClients, ?goals, ?handles, ?functions, ?sideTasks, ?modes, ?structs⟩
  -- names of one affix around one identifier
  case topics | callbacks | clientIds | clients | mqttClients | goals | functions | modes |
      structs =>
    first
      | exact nodupPS.map fun a b same => by simpa using same
      | exact nodupSP.map fun a b same => by simpa using same
      | exact nodupS.map fun a b same => by simpa using same
      | exact nodupT.map fun a b same => by simpa using same
      | exact distinct.modes.1.map fun a b same => by simpa using same
      | exact distinct.structs.1.map fun a b same => by simpa using same
  case bare =>
    refine List.nodup_append.mpr ⟨by decide, distinct.routines_nodup, ?_⟩
    rintro w fixed f routine rfl
    have reserved : w ∈ routineReserved := by
      simp only [List.mem_cons, List.not_mem_nil, or_false] at fixed
      simp only [routineReserved, List.mem_cons]
      tauto
    exact (distinct.routineWords w routine).free reserved
  case handles =>
    rw [List.append_assoc]
    exact (List.nodup_append.mpr ⟨nodupT, nodupSide, fun t task _ side same =>
      apartSide t task (same ▸ side)⟩).map fun a b same => by simpa using same
  case sideTasks => exact nodupSide.map fun a b same => by simpa using same

end Distinct

/-- Lists keyed by a function, the groups of distinct keys and each without repeats, have no
repeats together. -/
theorem nodup_flatMap_of_keys {κ β : Type} (key : β → κ) (groups : List (κ × List β))
    (keys : (groups.map Prod.fst).Nodup) (keyed : ∀ g ∈ groups, ∀ x ∈ g.2, key x = g.1)
    (each : ∀ g ∈ groups, g.2.Nodup) : (groups.flatMap Prod.snd).Nodup := by
  rw [List.nodup_flatMap]
  refine ⟨each, ?_⟩
  refine (List.pairwise_map.mp keys).imp_of_mem fun {g h} inG inH differ => ?_
  intro x xg xh
  exact differ ((keyed g inG x xg).symm.trans (keyed h inH x xh))

theorem Naming.kinds_nodup (nm : Naming) : (nm.groups.map Prod.fst).Nodup := by
  simp only [Naming.groups, List.map_cons, List.map_nil]
  decide

theorem Naming.idents_nodup {nm : Naming} (distinct : nm.Distinct) :
    (nm.groups.flatMap Prod.snd).Nodup :=
  nodup_flatMap_of_keys _ _ nm.kinds_nodup distinct.kind_of_mem_groups distinct.groups_nodup


theorem flatMap_cons_perm {α β : Type} (l : List α) (f : α → β) (g : α → List β) :
    (l.flatMap fun x => f x :: g x).Perm (l.map f ++ l.flatMap g) := by
  induction l with
  | nil => simp
  | cons a l ih =>
    simp only [List.flatMap_cons, List.map_cons, List.cons_append]
    exact ((ih.append_left (g a)).trans (List.perm_append_comm_assoc _ _ _)).cons (f a)

theorem Naming.declared_perm_idents (nm : Naming) :
    nm.declared.Perm (nm.groups.flatMap Prod.snd) := by
  have clients : ((nm.subscribers ++ nm.publishers).flatMap fun n =>
      [n ++ "ClientId", n ++ "Client", n ++ "MqttClient"]).Perm
      ((nm.subscribers ++ nm.publishers).map (· ++ "ClientId") ++
        ((nm.subscribers ++ nm.publishers).map (· ++ "Client") ++
          (nm.subscribers ++ nm.publishers).map (· ++ "MqttClient"))) := by
    refine (flatMap_cons_perm _ _ _).trans (List.Perm.append_left _ ?_)
    refine (flatMap_cons_perm _ (· ++ "Client") fun n => [n ++ "MqttClient"]).trans ?_
    rw [← List.map_eq_flatMap]
  have goals : (nm.tasks.flatMap fun t => [t ++ "_GoalAchieved", "Task" ++ t]).Perm
      (nm.tasks.map (· ++ "_GoalAchieved") ++ nm.tasks.map ("Task" ++ ·)) := by
    refine (flatMap_cons_perm _ (· ++ "_GoalAchieved") fun t => ["Task" ++ t]).trans ?_
    rw [← List.map_eq_flatMap]
  have fixed : ["debug", "setup", "loop"] = ["debug"] ++ ["setup"] ++ ["loop"] := rfl
  rw [List.perm_iff_count]
  intro x
  unfold Naming.declared Naming.groups
  rw [fixed]
  simp only [List.flatMap_cons, List.flatMap_nil, List.append_nil, List.count_append]
  rw [clients.count_eq, goals.count_eq]
  simp only [List.map_append, List.count_append]
  omega

theorem Naming.declared_nodup {nm : Naming} (distinct : nm.Distinct) : nm.declared.Nodup :=
  nm.declared_perm_idents.nodup_iff.mpr (Naming.idents_nodup distinct)

end SketchGen.Sketch
