import SketchGen.Sketch.Messaging
import SketchGen.Sketch.Variables

namespace SketchGen.Sketch

open SketchGen.Json SketchGen.Xml SketchGen.Text

/-! Tasks. Each task (`thread`) of a component runs periodically and keeps a flag that says
whether its goal is achieved. The flag follows the task's dependencies: the relations of the
component that end at the task, whose sources are other tasks (their flags) or routines (a call
with default arguments), joined by `||` when the first relation's operator is `OR` and by `&&`
otherwise. A task without dependencies toggles its flag. Publishers and subscribers run as
tasks too, created in `setup()` after the component's own tasks. -/

def tasks (cpc : Element) : List Element := cpc.childrenTagged "thread"

/-- The goal flag and task handle of a task: its identifier and its id as it reads. -/
structure TaskDecl where
  owner : String
  id : String
deriving DecidableEq, Repr

def TaskDecl.text (t : TaskDecl) : String :=
  (Symbol.goalFlag t.owner).declaration ++ " // Global variable for thread " ++ t.owner ++
    "(ID: " ++ t.id ++ ")\n" ++
  (Symbol.taskHandle t.owner).declaration ++ "\n"

def taskDeclOf (thread : Element) : Gen TaskDecl := do
  let name ← nameIdent thread
  pure ⟨name, shown thread "id"⟩

def taskDeclsOf (threads : List Element) : Gen (List TaskDecl) := threads.mapM taskDeclOf

def taskDefinitions (threads : List Element) : Gen String := do
  pure (String.join ((← taskDeclsOf threads).map TaskDecl.text) ++ "\n")

def taskCreation (name : String) : String :=
  let function := (Symbol.taskFunction name).ident
  "    xTaskCreate(\n" ++
  "        " ++ function ++ ",        // Function to implement the task\n" ++
  "        \"" ++ function ++ "\",      // Name of the task\n" ++
  "        512,                      // Stack size (in words, not bytes)\n" ++
  "        NULL,                     // Task input parameter\n" ++
  "        1,                        // Priority of the task\n" ++
  "        &" ++ (Symbol.taskHandle name).ident ++ "        // Task handle\n" ++
  "    );\n"

/-- The names of the tasks created in `setup()`: the tasks, then the publishing tasks, then
the receiving tasks. -/
def creationNamesOf (threads senders receivers : List Element) : Gen (List String) := do
  let own ← threads.mapM nameIdent
  let sent ← senders.mapM nameIdent
  let received ← receivers.mapM nameIdent
  pure (own ++ sent.map publishTaskName ++ received.map receiveTaskName)

def taskCreations (threads senders receivers : List Element) : Gen String := do
  pure (String.join ((← creationNamesOf threads senders receivers).map taskCreation))

/-- Whether an operator joins dependencies by `||`: it reads `OR` in any case, blanks around it
aside. No other letters than `o` and `r` have `O` and `R` as upper case, so comparing letters in
ASCII upper case decides it. -/
def isDisjunction (operator : String) : Bool :=
  (strip operator).toList.map Char.toUpper == ['O', 'R']

def keepFirst {α β : Type} [BEq β] (key : α → β) (kept : List α) (x : α) : List α :=
  if (kept.map key).contains (key x) then kept else kept ++ [x]

def firstOccurrencesBy {α β : Type} [BEq β] (key : α → β) (xs : List α) : List α :=
  xs.foldl (keepFirst key) []

def argumentOf (p : Value) : Gen Param := do
  let ty ← p.member "type"
  let name ← identifierOf (← p.member "name")
  let ctype ← CType.ofValue ty
  pure ⟨ctype, name⟩

/-- What a task depends on through one relation: the goal flag of another task, or a call of a
routine with its arguments. -/
inductive Term where
  | flag (task : String)
  | call (routine : String) (args : List Param)
deriving DecidableEq, Repr

def Term.args : Term → List Param
  | .flag _ => []
  | .call _ args => args

def Term.symbol : Term → Symbol
  | .flag task => .goalFlag task
  | .call routine _ => .routine routine

def Term.text (t : Term) : String :=
  match t with
  | .flag _ => t.symbol.ident
  | .call _ args => t.symbol.ident ++ "(" ++ ", ".intercalate (args.map (·.name)) ++ ")"

/-- What a task depends on through one relation: the flag of the source task, or a call of the
source routine with its declared arguments. A relation from neither has no element to read. -/
def dependencyOf (cpc : Element) (relation : Element) : Gen Term := do
  let source := relation.get? "source"
  match (tasks cpc).find? (·.get? "id" == source) with
  | some t => pure (.flag (← nameIdent t))
  | none =>
    match (cpc.childrenTagged "function").find? (·.get? "id" == source) with
    | none => throw (.noOperation .none "get")
    | some routine =>
      let name ← nameIdent routine
      let params ← (← jsonOr routine "input_parameters" "[]").items
      let args ← params.mapM argumentOf
      pure (.call name args)

/-- How a task's goal flag (`owner` is the task's identifier) is updated: toggled when nothing
leads to the task, otherwise set from the terms of its relations, joined by `||` or `&&`. -/
inductive Dependencies where
  | toggle (owner : String)
  | joined (owner : String) (disjunction : Bool) (terms : List Term)
deriving DecidableEq, Repr

/-- The variables a dependency block declares for its calls' arguments, each declaration once,
where it first occurs. -/
def Dependencies.declarations : Dependencies → List Param
  | .toggle _ => []
  | .joined _ _ terms => firstOccurrencesBy Param.declaration (terms.flatMap Term.args)

def Dependencies.text (d : Dependencies) : String :=
  match d with
  | .toggle owner =>
    let flag := (Symbol.goalFlag owner).ident
    flag ++ " = !" ++ flag ++ "; // Toggle state for simulation"
  | .joined owner disjunction terms =>
    let joiner := if disjunction then " || " else " && "
    "\n        ".intercalate (d.declarations.map Param.declaration) ++ "\n        " ++
      (Symbol.goalFlag owner).ident ++ " = (" ++ joiner.intercalate (terms.map Term.text) ++ ");"

def relationsTo (thread cpc : Element) : List Element :=
  (cpc.childrenTagged "relation").filter (·.get? "target" == thread.get? "id")

def dependenciesOf (thread cpc : Element) : Gen Dependencies := do
  let name ← nameIdent thread
  match relationsTo thread cpc with
  | [] => pure (.toggle name)
  | first :: rest =>
    let disjunction := isDisjunction ((first.get? "operator").getD "OR")
    let terms ← (first :: rest).mapM (dependencyOf cpc)
    pure (.joined name disjunction terms)

def taskDependencies (thread cpc : Element) : Gen String := do
  pure (← dependenciesOf thread cpc).text

/-- The FreeRTOS task of a task: its identifier, interval, id and parent id as they read, its
qualification and contribution notes, its dependencies and the switch over its operation
mode. -/
structure TaskBody where
  owner : String
  interval : String
  id : String
  parent : String
  qualifications : String
  contributions : String
  logic : Dependencies
  switch : Option ModeSwitch
deriving DecidableEq, Repr

def TaskBody.text (tb : TaskBody) : String :=
  "\n" ++
  "// Task for " ++ tb.owner ++ "\n" ++
  (Symbol.taskFunction tb.owner).declaration ++ " \x7b\n" ++
  "    // This variable handles the period in milliseconds for thread execution\n" ++
  "    const TickType_t xDelay = pdMS_TO_TICKS(" ++ tb.interval ++
    "); // Example interval for " ++ tb.owner ++ "\n" ++
  "\n" ++
  "    // --- " ++ tb.owner ++ " Context Information ---\n" ++
  "    // ID: " ++ tb.id ++ "\n" ++
  "    // ID CIM Parent: " ++ tb.parent ++ "\n" ++
  "    // qualification_array: \n" ++
  "    // " ++ tb.qualifications ++ "\n" ++
  "    // contribution_array: \n" ++
  "    // " ++ tb.contributions ++ "\n" ++
  "    // ----------------------------------------------------------\n" ++
  "\n" ++
  "    for (;;) \x7b\n" ++
  "        // --- Your code goes here ---\n" ++
  "        // Evaluate the state of " ++ tb.owner ++ "\n" ++
  "\n" ++
  "        " ++ tb.logic.text ++ "\n" ++
  "        " ++ switchText "        " tb.switch ++ "\n" ++
  "        // --- Your code ends here ---\n" ++
  "\n" ++
  "        vTaskDelay(xDelay);\n" ++
  "    \x7d\n" ++
  "\x7d\n"

def taskBodyOf (cpc thread : Element) : Gen TaskBody := do
  let name ← nameIdent thread
  let qualifications ← markedListNote (thread.get? "qualification_array")
  let contributions ← markedListNote (thread.get? "contribution_array")
  let logic ← dependenciesOf thread cpc
  let switch ← modeSwitchOf thread
  pure ⟨name, shown thread "interval_in_milliseconds", shown thread "id",
    shown thread "id_cim_parent", qualifications, contributions, logic, switch⟩

def taskCode (cpc thread : Element) : Gen String := do
  pure (← taskBodyOf cpc thread).text

def taskBodiesOf (threads : List Element) (cpc : Element) : Gen (List TaskBody) :=
  threads.mapM (taskBodyOf cpc)

def taskCodes (threads : List Element) (cpc : Element) : Gen String := do
  pure (String.join ((← taskBodiesOf threads cpc).map TaskBody.text))

theorem isDisjunction_or : isDisjunction "OR" = true := by decide

end SketchGen.Sketch
