import SketchGen.Sketch.Attributes

namespace SketchGen.Sketch

open SketchGen.Json SketchGen.Xml

/-! Operation modes. A task, routine or thread whose operation modes are switched on holds a
JSON list of modes, each with a code, a name and a description. The generated code keeps the
current mode in a variable that starts at the first mode's code and branches on it with a
`switch` of one case per mode. -/

/-- One case of a mode switch: the mode's code, name and description as they read. -/
structure ModeCase where
  code : String
  name : String
  description : String
deriving DecidableEq, Repr

/-- A `switch` over the variable `ident`, one case per operation mode. -/
structure ModeSwitch where
  ident : String
  cases : List ModeCase
deriving DecidableEq, Repr

def ModeSwitch.labels (sw : ModeSwitch) : List String := sw.cases.map (·.code)

/-- The file-scope declaration of a mode variable, starting at the first mode's code. -/
structure ModeDecl where
  ident : String
  code : String
  modeName : String
deriving DecidableEq, Repr

def modeVariable (e : Element) : Gen String := do
  pure ((← nameIdent e) ++ "_operation_mode")

def modesOf (e : Element) : Gen Value := jsonOr e "operation_modes" "[]"

def modeCaseOf (mode : Value) : Gen ModeCase := do
  let code ← mode.member "code"
  let name ← mode.member "name"
  let description ← mode.member "description"
  pure ⟨code.display, name.display, description.display⟩

def ModeCase.text (indent : String) (c : ModeCase) : String :=
  indent ++ "    case " ++ c.code ++ ": // " ++ c.name ++ " - " ++ c.description ++ "\n" ++
  indent ++ "        // Your logic for " ++ c.name ++ " goes here\n" ++
  indent ++ "        break;\n"

def ModeSwitch.text (indent : String) (sw : ModeSwitch) : String :=
  "\n" ++ indent ++ "switch (" ++ sw.ident ++ ") \x7b\n" ++
    String.join (sw.cases.map (ModeCase.text indent)) ++
    indent ++ "    default:\n" ++
    indent ++ "        // Handle undefined operation modes\n" ++
    indent ++ "        break;\n" ++
    indent ++ "\x7d\n"

def switchText (indent : String) : Option ModeSwitch → String
  | some sw => sw.text indent
  | none => ""

def modeSwitchOf (e : Element) : Gen (Option ModeSwitch) := do
  if !modesEnabled e then return none
  let modes ← modesOf e
  let var ← modeVariable e
  let cases ← (← modes.items).mapM modeCaseOf
  pure (some ⟨var, cases⟩)

def modeSwitch (e : Element) (indent : String) : Gen String := do
  pure (switchText indent (← modeSwitchOf e))

def ModeDecl.text (d : ModeDecl) : String :=
  "int " ++ d.ident ++ " = " ++ d.code ++ "; // Initial operation mode: " ++ d.modeName

def modeDeclOf (e : Element) : Gen (Option ModeDecl) := do
  if !modesEnabled e then return none
  let modes ← modesOf e
  if !modes.truthy then return none
  let var ← modeVariable e
  let code ← (← modes.first).member "code"
  let name ← (← modes.first).member "name"
  pure (some ⟨var, code.display, name.display⟩)

def modeDeclsOf (cpc : Element) : Gen (List ModeDecl) := do
  let owners := ["thread", "commThread", "listenerThread"].flatMap cpc.childrenTagged
  pure (← owners.mapM modeDeclOf).reduceOption

def modeDeclarations (cpc : Element) : Gen String := do
  pure ("\n".intercalate ((← modeDeclsOf cpc).map ModeDecl.text))

theorem modeSwitchOf_of_disabled (e : Element) (h : modesEnabled e = false) :
    modeSwitchOf e = .ok none := by
  simp [modeSwitchOf, h]; rfl

end SketchGen.Sketch
