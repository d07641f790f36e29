import SketchGen.Sketch.Messaging
import SketchGen.Sketch.Routine
import SketchGen.Sketch.Struct
import SketchGen.Sketch.Task

namespace SketchGen.Sketch

open SketchGen.Json SketchGen.Xml SketchGen.Text

/-! The sketch of a component: one text that holds, in order, a header naming the component,
its clients and topics, the goal flags of its tasks, the output variables of its routines, its
operation mode variables and data structures, the task handles of its publishers and
subscribers, `setup()`, the subscribers' callbacks, the publishing and receiving tasks,
`loop()`, the routines and the tasks. The parts are computed in this order too, so the first
part that fails decides the fault. -/

def outputVariablesOf (cpc : Element) : Gen (List Variable) := do
  let groups ← (cpc.childrenTagged "function").mapM fun routine => do
    let outputs ← jsonOf routine "output_parameters"
    let name ← nameIdent routine
    (← outputs.items).mapM (Variable.ofParam name)
  pure groups.flatten

def headed (heading part : String) : String :=
  if part.isEmpty then "" else "\n" ++ heading ++ "\n" ++ part ++ "\n"

def framed (part : String) : String :=
  if part.isEmpty then "" else "\n" ++ part ++ "\n"

/-- The sketch of a component, section by section. -/
structure Program where
  header : String
  clients : List Client
  topics : Topics
  goals : List TaskDecl
  outputs : List Variable
  modes : List ModeDecl
  structs : List StructDecl
  sendHandles : List String
  receiveHandles : List String
  connections : Connections
  creations : List String
  callbacks : List Callback
  publishTasks : List PublishTask
  receiveTasks : List ReceiveTask
  routines : List Routine
  taskBodies : List TaskBody
deriving Repr

def includes : String :=
  "\n" ++
  "#include <WiFiNINA.h>\n" ++
  "#include <PubSubClient.h>\n" ++
  "#include <FreeRTOS_SAMD21.h>\n" ++
  "#include <task.h>\n" ++
  "#include \"secrets.h\"\n" ++
  "#include \"comm_utils.h\"\n" ++
  "#include <Arduino_JSON.h>\n" ++
  "#include <ArduinoJson.h>\n" ++
  "\n" ++
  "// Global variables for WiFi and MQTT connectivity\n"

def setupOpening : String :=
  "\n" ++
  "void setup() \x7b\n" ++
  "    if (debug) \x7b\n" ++
  "        Serial.begin(9600);\n" ++
  "        while (!Serial);\n" ++
  "    \x7d\n" ++
  "    connectToWiFi();\n" ++
  "\n"

def loopText : String :=
  "\n" ++
  "void loop() \x7b\n" ++
  "\n" ++
  "    // Let FreeRTOS manage tasks, nothing to do here\n" ++
  "    delay(100);\n" ++
  "\x7d\n"

def Program.parts (sk : Program) : List String :=
  [sk.header, includes,
    String.join (sk.clients.map Client.text),
    "\nbool debug = true;\n\n" ++
      "// MQTT topics for this CPC (\x7bCPS_id\x7d/\x7bCPC_id\x7d/\x7bcomm_thread_id\x7d)\n\n",
    sk.topics.text,
    "\n\n// Thread Status variables\n",
    String.join (sk.goals.map TaskDecl.text), "\n",
    "// Function output variables\n",
    String.join (sk.outputs.filterMap (Variable.line "" .init)),
    "\n// Global Operation Mode Variables\n",
    "\n".intercalate (sk.modes.map ModeDecl.text),
    "\n\n// Global Data Structures (software resources and/or any dependum)\n",
    "\n".intercalate (sk.structs.map (StructDecl.text .declare)), "\n",
    headed "// Comm Thread Handles"
      (joinLines (sk.sendHandles.map fun n => (Symbol.taskHandle (publishTaskName n)).declaration)),
    headed "// Listener Thread Handles"
      (joinLines (sk.receiveHandles.map fun n => (Symbol.taskHandle (receiveTaskName n)).declaration)),
    setupOpening,
    indentLines "    " sk.connections.text,
    "\n    \n    // Create tasks for the operational goals\n",
    String.join (sk.creations.map taskCreation),
    "\n    // Start the threads\n    vTaskStartScheduler();\n\x7d\n",
    framed (String.join (sk.callbacks.map Callback.text)),
    framed (String.join (sk.publishTasks.map PublishTask.text)),
    "\n",
    String.join (sk.receiveTasks.map ReceiveTask.text),
    loopText,
    String.join (sk.routines.map Routine.text),
    String.join (sk.taskBodies.map TaskBody.text)]

def Program.text (sk : Program) : String := String.join sk.parts

/-- The sketch of a component of the system with the given id. The sections are computed in
the order in which the text is assembled, topics before clients, so the first section that
fails decides the fault. -/
def sketchOf (systemId : String) (cpc : Element) : Gen Program := do
  let topics ← topicsOf systemId cpc
  let clients ← clientsOf cpc
  let header :=
    "// CPC ID: " ++ shown cpc "id" ++ "\n" ++
    "// Parent ID: " ++ shown cpc "id_cim_parent" ++ "\n" ++
    "// Name: " ++ shown cpc "name" ++ "\n" ++
    "// Description: " ++ shown cpc "description" ++ "\n"
  let threads := tasks cpc
  let goals ← taskDeclsOf threads
  let outputs ← outputVariablesOf cpc
  let modes ← modeDeclsOf cpc
  let structs ← structDeclsOf cpc
  let sendHandles ← (publishers cpc).mapM nameIdent
  let receiveHandles ← (subscribers cpc).mapM nameIdent
  let creations ← creationNamesOf threads (publishers cpc) (subscribers cpc)
  let connections ← connectionsOf cpc
  let callbacks ← callbacksOf cpc
  let publishTasks ← publishTasksOf cpc
  let receiveTasks ← receiveTasksOf cpc
  let routines ← (cpc.childrenTagged "function").mapM (routineOf · cpc)
  let taskBodies ← taskBodiesOf threads cpc
  pure ⟨header, clients, topics, goals, outputs, modes, structs, sendHandles, receiveHandles,
    connections, creations, callbacks, publishTasks, receiveTasks, routines, taskBodies⟩

def sketchText (systemId : String) (cpc : Element) : Gen String := do
  pure (← sketchOf systemId cpc).text

def sketchFileName (cpc : Element) : Gen String := do
  pure ((← nameIdent cpc) ++ ".ino")

def secretsText : String :=
  "// WiFi credentials\n" ++
  "#define SECRET_SSID \"your_SSID\"      // Replace with your WiFi SSID\n" ++
  "#define SECRET_PASS \"your_PASSWORD\"  // Replace with your WiFi password\n" ++
  "\n" ++
  "// MQTT server settings\n" ++
  "#define SECRET_MQTT_BROKER \"broker.hivemq.com\"  // Example public MQTT broker\n" ++
  "#define SECRET_MQTT_PORT 1883                  // Standard MQTT port\n"

def connectivityText : String :=
  "#include <WiFiNINA.h>\n" ++
  "#include <PubSubClient.h>\n" ++
  "#include \"secrets.h\"\n" ++
  "\n" ++
  "// Function to initialize Wi-Fi\n" ++
  "void connectToWiFi() \x7b\n" ++
  "  Serial.print(\"Connecting to WiFi...\");\n" ++
  "  WiFi.begin(SECRET_SSID, SECRET_PASS);\n" ++
  "\n" ++
  "  while (WiFi.status() != WL_CONNECTED) \x7b\n" ++
  "    Serial.print(\".\");\n" ++
  "    delay(1000);\n" ++
  "  \x7d\n" ++
  "\n" ++
  "  Serial.println(\"Connected to WiFi!\");\n" ++
  "\x7d\n" ++
  "\n" ++
  "// Function to initialize MQTT with optional callback\n" ++
  "void mqttSetup(PubSubClient &client, MQTT_CALLBACK_SIGNATURE = nullptr) \x7b\n" ++
  "  client.setServer(SECRET_MQTT_BROKER, SECRET_MQTT_PORT);\n" ++
  "  if (callback != nullptr) \x7b\n" ++
  "      client.setCallback(callback); // Set callback only if provided\n" ++
  "  \x7d\n" ++
  "\x7d\n" ++
  "\n" ++
  "// Function to establish an MQTT connection\n" ++
  "void connectToMQTT(PubSubClient &client, const char* clientId, const char* topic) \x7b\n" ++
  "  while (!client.connected()) \x7b\n" ++
  "    Serial.print(\"Attempting MQTT connection...\");\n" ++
  "    if (client.connect(clientId)) \x7b\n" ++
  "      Serial.println(\"Connected to MQTT broker!\");\n" ++
  "      client.subscribe(topic);\n" ++
  "    \x7d else \x7b\n" ++
  "      Serial.print(\"Failed. Retrying in 1 second...\");\n" ++
  "      delay(1000);\n" ++
  "    \x7d\n" ++
  "  \x7d\n" ++
  "\x7d\n" ++
  "\n"

end SketchGen.Sketch
