import SketchGen.Sketch.Notes
import SketchGen.Sketch.OperationMode
import SketchGen.Sketch.Symbol

namespace SketchGen.Sketch

open SketchGen.Json SketchGen.Xml SketchGen.Text

/-! Messaging between components. Each publisher (`commThread`) and subscriber
(`listenerThread`) of a component has an MQTT client, a client id and a topic named after it.
A publisher's task fills a JSON document from its dependum and publishes it on its topic; a
subscriber's task keeps its client connected and polled, and a callback copies each received
message into the subscriber's dependum. -/

def publishers (cpc : Element) : List Element := cpc.childrenTagged "commThread"

def subscribers (cpc : Element) : List Element := cpc.childrenTagged "listenerThread"

def joinLines (lines : List String) : String := "\n".intercalate lines

def titled (title : String) (lines : List String) : List String :=
  if lines.isEmpty then [] else title :: lines

/-- The topic a publisher sends on or a subscriber listens to: the thread's identifier and the
topic's address. -/
structure Topic where
  owner : String
  address : String
deriving DecidableEq, Repr

def Topic.text (t : Topic) : String :=
  (Symbol.topic t.owner).declaration ++ " = \"" ++ t.address ++ "\";"

/-- The topics of a component: those its publishers send on, then those its subscribers
listen to. -/
structure Topics where
  sent : List Topic
  received : List Topic
deriving DecidableEq, Repr

def Topics.text (ts : Topics) : String :=
  joinLines (titled "// Comm Topics(Sender)" (ts.sent.map Topic.text) ++
    titled "// Listener Topics(Receiver)" (ts.received.map Topic.text))

def sentTopicOf (systemId : String) (cpc publisher : Element) : Gen Topic := do
  let name ← nameIdent publisher
  let cpcId ← identOf cpc "id"
  let ownId ← identOf publisher "id"
  pure ⟨name, systemId ++ "/" ++ cpcId ++ "/" ++ ownId ++ "/dependum"⟩

def receivedTopicOf (systemId : String) (subscriber : Element) : Gen Topic := do
  let name ← nameIdent subscriber
  let cpcId ← identOf subscriber "comm_threadCPCId"
  let senderId ← identOf subscriber "comm_threadId"
  pure ⟨name, systemId ++ "/" ++ cpcId ++ "/" ++ senderId ++ "/dependum"⟩

def topicsOf (systemId : String) (cpc : Element) : Gen Topics := do
  let sent ← (publishers cpc).mapM (sentTopicOf systemId cpc)
  let received ← (subscribers cpc).mapM (receivedTopicOf systemId)
  pure ⟨sent, received⟩

def topicDeclarations (systemId : String) (cpc : Element) : Gen String := do
  pure (← topicsOf systemId cpc).text

/-- The clients connected in `setup()`, by the identifiers of their threads: the publishers',
then the subscribers'. -/
structure Connections where
  senders : List String
  receivers : List String
deriving DecidableEq, Repr

def senderLines (name : String) : List String :=
  let client := (Symbol.mqttClient name).ident
  ["mqttSetup(" ++ client ++ ");",
    "connectToMQTT(" ++ client ++ ", " ++ (Symbol.clientId name).ident ++ ", " ++
      (Symbol.topic name).ident ++ ");"]

def receiverLines (name : String) : List String :=
  let client := (Symbol.mqttClient name).ident
  ["mqttSetup(" ++ client ++ ", " ++ (Symbol.callback name).ident ++ ");",
    "connectToMQTT(" ++ client ++ ", " ++ (Symbol.clientId name).ident ++ ", " ++
      (Symbol.topic name).ident ++ ");"]

def Connections.text (c : Connections) : String :=
  joinLines (titled "// Connection and subscription to topics(Sender)" (c.senders.flatMap senderLines) ++
    titled "// Listener Topics(Receiver)" (c.receivers.flatMap receiverLines))

def connectionsOf (cpc : Element) : Gen Connections := do
  let senders ← (publishers cpc).mapM nameIdent
  let receivers ← (subscribers cpc).mapM nameIdent
  pure ⟨senders, receivers⟩

/-- Setting up each client and connecting it to its topic; a subscriber's client also gets its
callback. -/
def topicConnections (cpc : Element) : Gen String := do
  pure (← connectionsOf cpc).text

def publisherHandles (cpc : Element) : Gen String := do
  let names ← (publishers cpc).mapM nameIdent
  pure (joinLines (names.map fun n => (Symbol.taskHandle (publishTaskName n)).declaration))

def subscriberHandles (cpc : Element) : Gen String := do
  let names ← (subscribers cpc).mapM nameIdent
  pure (joinLines (names.map fun n => (Symbol.taskHandle (receiveTaskName n)).declaration))

/-- The client id, network client and MQTT client of one subscriber or publisher: the
thread's identifier and the client id's text. -/
structure Client where
  owner : String
  id : String
deriving DecidableEq, Repr

def Client.text (c : Client) : String :=
  (Symbol.clientId c.owner).declaration ++ " = \"" ++ c.id ++ "\";\n" ++
  (Symbol.wifiClient c.owner).declaration ++ "\n" ++
  (Symbol.mqttClient c.owner).declaration ++ "\n"

def clientOf (cpc thread : Element) : Gen Client := do
  let name ← nameIdent thread
  let cpcName ← nameIdent cpc
  let cpcId ← identOf cpc "id"
  pure ⟨name, cpcName ++ "Client_" ++ cpcId⟩

def clientsOf (cpc : Element) : Gen (List Client) :=
  (subscribers cpc ++ publishers cpc).mapM (clientOf cpc)

def clientDeclarations (cpc : Element) : Gen String := do
  pure (String.join ((← clientsOf cpc).map Client.text))

def fieldIdent (field : Value) : Gen String := do identifierOf (← field.get "name")

def dependumFields (thread : Element) : Gen (List Value) := do (← jsonOf thread "data_structure").items

def extractionLine (owner field : String) : String :=
  owner ++ "_data_structure." ++ field ++ " = doc[\"" ++ field ++ "\"];"

def printLines (owner field : String) : String :=
  "Serial.print(\"" ++ field ++ ": \");\n" ++
  "Serial.println(" ++ owner ++ "_data_structure." ++ field ++ ");"

def publicationLine (owner field : String) : String :=
  "dependumJson[\"" ++ field ++ "\"] = " ++ owner ++ "_data_structure." ++ field ++ ";"

def fieldExtraction (subscriber : Element) : Gen String := do
  let lines ← (← dependumFields subscriber).mapM fun f => do
    let owner ← nameIdent subscriber
    let field ← fieldIdent f
    pure (extractionLine owner field)
  pure (joinLines lines)

def fieldPrints (subscriber : Element) : Gen String := do
  let lines ← (← dependumFields subscriber).mapM fun f => do
    let field ← fieldIdent f
    let owner ← nameIdent subscriber
    pure (printLines owner field)
  pure (joinLines lines)

def fieldPublication (publisher : Element) : Gen String := do
  let lines ← (← dependumFields publisher).mapM fun f => do
    let field ← fieldIdent f
    let owner ← nameIdent publisher
    pure (publicationLine owner field)
  pure (joinLines lines)

/-- The callback that receives a subscriber's messages: the subscriber's identifier, the
identifiers of its dependum's fields, and the switch over its operation mode. -/
structure Callback where
  owner : String
  fields : List String
  switch : Option ModeSwitch
deriving DecidableEq, Repr

def Callback.text (cb : Callback) : String :=
  "\n" ++
  (Symbol.callback cb.owner).declaration ++ " \x7b\n" ++
  "    Serial.print(\"Message on Topic 1: \");\n" ++
  "    Serial.print(topic);\n" ++
  "    Serial.println(\" - \");\n" ++
  "    // Parse the incoming JSON message\n" ++
  "    StaticJsonDocument<200> doc;\n" ++
  "    DeserializationError error = deserializeJson(doc, payload);\n" ++
  "\n" ++
  "    if (!error) \x7b\n" ++
  indentLines "        " (joinLines (cb.fields.map (extractionLine cb.owner))) ++ "\n" ++
  "\n" ++
  "        // Debug output to Serial\n" ++
  "        Serial.println(\"Dependum data received:\");\n" ++
  "        if (debug) \x7b\n" ++
  indentLines "                    " (joinLines (cb.fields.map (printLines cb.owner))) ++ "\n" ++
  "        \x7d\n" ++
  "    \x7d else \x7b\n" ++
  "        Serial.println(\"Error parsing JSON message\");\n" ++
  "    \x7d\n" ++
  "    // Your custom code to process the dependum can go here\n" ++
  switchText "        " cb.switch ++ "\n" ++
  "\n" ++
  "\n" ++
  "\x7d\n" ++
  "\n"

/-- The callback of a subscriber. The fields are read once: printing them reads the same
fields again, which cannot fail where copying them did not. -/
def callbackOf (subscriber : Element) : Gen Callback := do
  let name ← nameIdent subscriber
  let fields ← (← dependumFields subscriber).mapM fieldIdent
  let switch ← modeSwitchOf subscriber
  pure ⟨name, fields, switch⟩

def callbacksOf (cpc : Element) : Gen (List Callback) := (subscribers cpc).mapM callbackOf

def subscriberCallbacks (cpc : Element) : Gen String := do
  pure (String.join ((← callbacksOf cpc).map Callback.text))

/-- The task that publishes a publisher's dependum: the publisher's identifier, its name and
interval as they read, its notes, the identifiers of its dependum's fields, and the switch over
its operation mode. -/
structure PublishTask where
  owner : String
  title : String
  interval : String
  notes : String
  fields : List String
  switch : Option ModeSwitch
deriving DecidableEq, Repr

def PublishTask.text (pt : PublishTask) : String :=
  let client := (Symbol.mqttClient pt.owner).ident
  let topic := (Symbol.topic pt.owner).ident
  "\n" ++
  "\n" ++
  (Symbol.taskFunction (publishTaskName pt.owner)).declaration ++ " \x7b\n" ++
  pt.notes ++ "\n" ++
  "    // This variable handles the period in milliseconds for thread execution\n" ++
  "    const TickType_t xDelay = pdMS_TO_TICKS(" ++ pt.interval ++ ");\n" ++
  "    for (;;) \x7b\n" ++
  "        // Create a JSON object for the dependum\n" ++
  "        JSONVar dependumJson;\n" ++
  indentLines "        " (joinLines (pt.fields.map (publicationLine pt.owner))) ++ "\n" ++
  "\n" ++
  "        // Convert the JSON object to a string\n" ++
  "        String dependumMessage = JSON.stringify(dependumJson);\n" ++
  "\n" ++
  switchText "    " pt.switch ++ "\n" ++
  "\n" ++
  "        " ++ client ++ ".publish(" ++ topic ++ ", dependumMessage.c_str());  // Publish message\n" ++
  "        if (debug) \x7b\n" ++
  "            Serial.println(\"Dependum published successfully for " ++ pt.title ++ "!\");\n" ++
  "            Serial.print(\"Topic: \");\n" ++
  "            Serial.println(" ++ topic ++ ");\n" ++
  "            Serial.print(\"Message: \");\n" ++
  "            Serial.println(dependumMessage);\n" ++
  "        \x7d else \x7b\n" ++
  "            if (debug) \x7b\n" ++
  "                Serial.println(\"Failed to publish dependum for " ++ pt.title ++ ".\");\n" ++
  "            \x7d\n" ++
  "            \n" ++
  "        \x7d\n" ++
  "        vTaskDelay(xDelay);\n" ++
  "    \x7d\n" ++
  "\x7d\n" ++
  "\n"

/-- The publishing task of a publisher. The notes make the publisher's identifier first, so
the fields after them never fail on it. -/
def publishTaskOf (cpc publisher : Element) : Gen PublishTask := do
  let title := shown publisher "name"
  let interval := shown publisher "interval_in_milliseconds"
  let notes ← threadNotes .publisher publisher cpc
  let fields ← (← dependumFields publisher).mapM fieldIdent
  let switch ← modeSwitchOf publisher
  let name ← nameIdent publisher
  pure ⟨name, title, interval, notes, fields, switch⟩

def publishTasksOf (cpc : Element) : Gen (List PublishTask) :=
  (publishers cpc).mapM (publishTaskOf cpc)

def publisherTasks (cpc : Element) : Gen String := do
  pure (String.join ((← publishTasksOf cpc).map PublishTask.text))

def subscriberTasks (_cpc : Element) : String := ""

/-- The task that keeps a subscriber's client connected and polls it: the subscriber's
identifier, its interval as it reads, and its notes. -/
structure ReceiveTask where
  owner : String
  interval : String
  notes : String
deriving DecidableEq, Repr

def ReceiveTask.text (rt : ReceiveTask) : String :=
  let client := (Symbol.mqttClient rt.owner).ident
  let clientId := (Symbol.clientId rt.owner).ident
  let topic := (Symbol.topic rt.owner).ident
  "\n" ++
  (Symbol.taskFunction (receiveTaskName rt.owner)).declaration ++ " \x7b\n" ++
  rt.notes ++ "\n" ++
  "    // This variable handles the period in milliseconds for thread execution\n" ++
  "    const TickType_t xDelay = pdMS_TO_TICKS(" ++ rt.interval ++ ");\n" ++
  "    \n" ++
  "\n" ++
  "    for (;;)\n" ++
  "    \x7b\n" ++
  "\n" ++
  "        // Check MQTT connection status\n" ++
  "        if (!" ++ client ++ ".connected())\n" ++
  "        \x7b\n" ++
  "          connectToMQTT(" ++ client ++ ", " ++ clientId ++ ", " ++ topic ++ ");\n" ++
  "        \x7d\n" ++
  "\n" ++
  "        // Always poll MQTT for new messages\n" ++
  "        " ++ client ++ ".loop();\n" ++
  "\n" ++
  "        // Keep delay to avoid overloading loop but keep polling\n" ++
  "        vTaskDelay(xDelay);\n" ++
  "    \x7d\n" ++
  "\x7d\n"

def receiveTaskOf (cpc subscriber : Element) : Gen ReceiveTask := do
  let name ← nameIdent subscriber
  let interval := shown subscriber "interval_in_milliseconds"
  let notes := indentLines "    " (← threadNotes .subscriber subscriber cpc)
  pure ⟨name, interval, notes⟩

def receiveTasksOf (cpc : Element) : Gen (List ReceiveTask) :=
  (subscribers cpc).mapM (receiveTaskOf cpc)

def subscriberLoops (cpc : Element) : Gen String := do
  pure (String.join ((← receiveTasksOf cpc).map ReceiveTask.text))

end SketchGen.Sketch
