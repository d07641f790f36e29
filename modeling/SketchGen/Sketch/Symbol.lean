namespace SketchGen.Sketch

/-! Symbols: the global names of a sketch. Each is made from the identifier of the element it
belongs to: a task's goal flag, handle and function, a publisher's or subscriber's client id,
network client, MQTT client and topic, a subscriber's callback, and a routine. A symbol's
declaration is the text that declares or defines it, up to its value or body; the sections of
a sketch write these texts and nothing else where they declare the symbols. -/

/-- A global name of a sketch, by the kind of thing it names. -/
inductive Symbol where
  | goalFlag (task : String)
  | taskHandle (task : String)
  | taskFunction (task : String)
  | clientId (thread : String)
  | wifiClient (thread : String)
  | mqttClient (thread : String)
  | topic (thread : String)
  | callback (subscriber : String)
  | routine (name : String)
deriving DecidableEq, Repr

def Symbol.ident : Symbol → String
  | .goalFlag task => task ++ "_GoalAchieved"
  | .taskHandle task => "Task" ++ task
  | .taskFunction task => task ++ "Task"
  | .clientId thread => thread ++ "ClientId"
  | .wifiClient thread => thread ++ "Client"
  | .mqttClient thread => thread ++ "MqttClient"
  | .topic thread => thread ++ "_topic"
  | .callback subscriber => "callback_" ++ subscriber
  | .routine name => name

def Symbol.declaration (s : Symbol) : String :=
  match s with
  | .goalFlag _ => "bool " ++ s.ident ++ " = false;"
  | .taskHandle _ => "TaskHandle_t " ++ s.ident ++ ";"
  | .taskFunction _ => "void " ++ s.ident ++ "(void *pvParameters)"
  | .clientId _ => "const char* " ++ s.ident
  | .wifiClient _ => "WiFiClient " ++ s.ident ++ ";"
  | .mqttClient thread => "PubSubClient " ++ s.ident ++ "(" ++ (Symbol.wifiClient thread).ident ++ ");"
  | .topic _ => "const char* " ++ s.ident
  | .callback _ => "void " ++ s.ident ++ "(char* topic, byte* payload, unsigned int length)"
  | .routine _ => "bool " ++ s.ident ++ "("

def publishTaskName (publisher : String) : String := "publishDependum_" ++ publisher

def receiveTaskName (subscriber : String) : String := "receiveDependum_" ++ subscriber

end SketchGen.Sketch
