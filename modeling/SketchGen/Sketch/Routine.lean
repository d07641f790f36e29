import SketchGen.Sketch.Notes
import SketchGen.Sketch.OperationMode
import SketchGen.Sketch.Symbol
import SketchGen.Sketch.Variables

namespace SketchGen.Sketch

open SketchGen.Json SketchGen.Xml SketchGen.Text

/-! Routines. A routine (`function`) of a component becomes a C function returning `bool`:
its input parameters are the function's parameters, a routine with operation modes takes the
current mode as a last parameter starting at the first mode's code, its output parameters are
assigned their initial values, and the software resources related to it have their dependum
members initialised. Comments record the routine's ids, parameters, qualifications,
contributions and hardware resources. -/

/-- One parameter of a routine's signature. The type is looked up in the table before the name
is read. -/
def signatureParamOf (p : Value) : Gen Param := do
  let ctype ← CType.ofValue (← p.member "type")
  let name ← identifierOf (← p.member "name")
  pure ⟨ctype, name⟩

def paramNote (p : Value) : Gen String := do
  let name ← p.member "name"
  let ty ← p.member "type"
  let description ← p.member "description"
  pure ("        // " ++ name.display ++ "(" ++ ty.display ++ ") - " ++ description.display ++ "\n")

/-- The code of the first operation mode of a routine whose modes are on, which its mode
parameter starts at. The routine must list its modes. -/
def modeCodeOf (routine : Element) : Gen (Option String) := do
  if !modesEnabled routine then return none
  let modes ← jsonOf routine "operation_modes"
  let code ← (← modes.first).member "code"
  pure (some code.display)

/-- Whether a software resource is related to a routine, by a relation anywhere in the
component from the resource's id to the routine's id. -/
def usesResource (cpc : Element) (routineId : String) (resource : Element) : Gen Bool := do
  let path := ".//relation[@source='" ++ shown resource "id" ++ "'][@target='" ++ routineId ++ "']"
  pure !(← findAllIn cpc path).isEmpty

/-- The initialisation of one member of a software resource's dependum: its identifier, and
whether it is a text buffer (filled with a default text) rather than a number (set to zero). -/
structure MemberInit where
  name : String
  buffer : Bool
deriving DecidableEq, Repr

def MemberInit.text (resource : String) (m : MemberInit) : String :=
  if m.buffer then
    "    strcpy(" ++ resource ++ "_data_structure." ++ m.name ++
      ", \"default\");  // Initialize string member\n"
  else
    "    " ++ resource ++ "_data_structure." ++ m.name ++ " = 0;  // Initialize numeric member\n"

/-- The initialisation of one member: a member whose type's base, before any `[`, is `char` is
a text buffer. -/
def memberInitOf (member : Value) : Gen MemberInit := do
  let name ← identifierOf (← member.member "name")
  let base ← match ← member.member "type" with
    | .str s => pure (strip (String.ofList (s.toList.takeWhile (· != '['))))
    | v => throw (.noOperation v.kind "split")
  pure ⟨name, base == "char"⟩

def resourceMembers (resource : Element) : Gen (List Value) :=
  match resource.get? "data_structure" with
  | some s => if s.isEmpty then pure [] else do (← readAttribute (some s)).items
  | none => pure []

/-- The initialisation of a software resource's dependum: the resource's identifier, its name as
it reads, and its members. -/
structure ResourceInit where
  owner : String
  title : String
  members : List MemberInit
deriving DecidableEq, Repr

def ResourceInit.text (r : ResourceInit) : String :=
  indentLines "    " ("\n// This function uses the software resource: " ++ r.title ++
    "\n// Using the Data Structure " ++ r.owner ++ "_data_structure\n\n") ++
  String.join (r.members.map (MemberInit.text r.owner)) ++ "\n"

def resourceInitOf (resource : Element) : Gen ResourceInit := do
  let name ← nameIdent resource
  let members ← resourceMembers resource
  let inits ← members.mapM memberInitOf
  pure ⟨name, shown resource "name", inits⟩

/-- The C function of a routine: its identifier, its parameters, the first mode's code when
its modes are on (a last parameter), its comments, its output variables, the switch over its
operation mode and the software resources it initialises. -/
structure Routine where
  name : String
  params : List Param
  modeCode : Option String
  comments : String
  outputs : List Variable
  switch : Option ModeSwitch
  resources : List ResourceInit
deriving DecidableEq, Repr

def modeParamText (routine code : String) : String :=
  "int " ++ routine ++ "_operation_mode = " ++ code

def Routine.signature (r : Routine) : String :=
  (Symbol.routine r.name).declaration ++
    ", ".intercalate (r.params.map Param.text ++ (r.modeCode.map (modeParamText r.name)).toList) ++
    ") \x7b"

def Routine.text (r : Routine) : String :=
  "\n" ++
  r.signature ++ "\n" ++
  r.comments ++ "\n" ++
  "    // Set output parameters\n" ++
  " " ++ " ".intercalate (r.outputs.filterMap (Variable.line "   " .assign)) ++ "\n" ++
  String.join (r.resources.map ResourceInit.text) ++ "\n" ++
  "    // --- Your code goes here ---\n" ++
  "    \n" ++
  "    " ++ switchText "    " r.switch ++ "\n" ++
  "    \n" ++
  "    return true;\n" ++
  "\n" ++
  "    // --- Your code goes here ---\n" ++
  "\x7d\n"

def routineOf (routine cpc : Element) : Gen Routine := do
  let name ← nameIdent routine
  let routineId := shown routine "id"
  let inputs ← jsonOf routine "input_parameters"
  let outputs ← jsonOf routine "output_parameters"
  let params ← (← inputs.items).mapM signatureParamOf
  let modeCode ← modeCodeOf routine
  let inputNotes ← (← inputs.items).mapM paramNote
  let outputNotes ← (← outputs.items).mapM paramNote
  let qualifications ← markedListNote (routine.get? "qualification_array")
  let contributions ← markedListNote (routine.get? "contribution_array")
  let hardware := indentLines "    " (← hardwareNotes routine cpc)
  let comments :=
    "    // Function ID: " ++ routineId ++ "\n" ++
    "    // Parent ID: " ++ shown routine "id_cim_parent" ++ "\n" ++
    "    // Input Parameters:\n" ++ String.join inputNotes ++
    "    // Output Parameters:\n" ++ String.join outputNotes ++
    "    // Qualification Array:\n" ++
    "    // " ++ qualifications ++ "\n" ++
    "    // Contribution Array:\n" ++
    "    // " ++ contributions ++ "\n" ++
    hardware
  let outputVars ← (← outputs.items).mapM (Variable.ofParam name)
  let switch ← modeSwitchOf routine
  let resources ← (cpc.childrenTagged "sw_resource").filterM (usesResource cpc routineId)
  let inits ← resources.mapM resourceInitOf
  pure ⟨name, params, modeCode, comments, outputVars, switch, inits⟩

def routineCode (routine cpc : Element) : Gen String := do
  pure (← routineOf routine cpc).text

end SketchGen.Sketch
