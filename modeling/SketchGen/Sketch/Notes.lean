import SketchGen.Sketch.Attributes
import SketchGen.Text.Layout
import SketchGen.Text.Markup

namespace SketchGen.Sketch

open SketchGen.Json SketchGen.Xml SketchGen.Text

/-! Comment blocks of the generated code: the qualifications and contributions an element
lists, where a thread's dependum comes from or goes to, and the hardware resources a routine
uses. -/

def noneSpecified : String := " * None specified."

def bullets (entries : String) : String :=
  "\n".intercalate ((piecesAt ';' entries).map fun q => " * - \"" ++ strip q ++ "\"")

def listNote : Option String → String
  | some s => if s.isEmpty then noneSpecified else bullets s
  | none => noneSpecified

def dropMarks : List Char → List Char
  | '[' :: ']' :: rest => dropMarks rest
  | c :: rest => c :: dropMarks rest
  | [] => []

/-- A list attribute as bullets, where empty-list marks `[]` do not count as entries; the
attribute must be present. -/
def markedListNote : Option String → Gen String
  | some s => .ok (if (dropMarks s.toList).isEmpty then noneSpecified else bullets s)
  | none => .error (.noOperation .none "replace")

/-- How the notes name the element at the other end of a relation, by its tag; an element of
another tag is not named. -/
def partnerPhrase (e : Element) : Gen String := do
  let name := attrValue e "name"
  match e.tag with
  | "function" => pure ("function " ++ (← identifierOf name) ++ "()")
  | "thread" => pure ("thread " ++ (← identifierOf name) ++ "()")
  | "hw_resource" => pure ("hardware resource \"" ++ (← identifierOf name) ++ "\"()")
  | "sw_resource" => pure ("software resource \"" ++ (← identifierOf name) ++ "_data_structure\"()")
  | _ => pure ""

/-- The element at the far end of the first communication relation whose `near` end is the
given id, found anywhere below the component by its id. -/
def partnerOf (cpc : Element) (id : Option String) (near far : String) : Gen Element := do
  let relation ← findIn cpc (← around (".//commRelation[@" ++ near ++ "='") id "']")
  let farId ← attrOfFound relation far
  match ← findIn cpc (← around ".//*[@id='" farId "']") with
  | some partner => pure partner
  | none => throw (.noOperation .none "get")

/-- The wording that tells a publisher's notes from a subscriber's. -/
structure ThreadRole where
  title : String
  duty : String
  handover : String
  exchange : String
  purpose : String
  near : String
  far : String

def ThreadRole.subscriber : ThreadRole :=
  ⟨"Listener Thread", "receiving", "should be stored on and then retrieved from the",
    "receives", "reception", "source", "target"⟩

def ThreadRole.publisher : ThreadRole :=
  ⟨"Comm Thread", "generating", "should be generated by the", "provides", "transmission",
    "target", "source"⟩

def threadNotes (role : ThreadRole) (thread cpc : Element) : Gen String := do
  let name := shown thread "name"
  let routine := (← nameIdent thread) ++ "()"
  let dependum := (← nameIdent thread) ++ "_data_structure"
  let partner ← partnerOf cpc (thread.get? "id") role.near role.far
  let phrase ← partnerPhrase partner
  let text :=
    "\n" ++
    "//\n" ++
    "// --- " ++ role.title ++ " Information ---\n" ++
    "// Name: " ++ name ++ "\n" ++
    "// ID: " ++ shown thread "id" ++ "\n" ++
    "// Description: This " ++ role.title ++ " is responsible for " ++ role.duty ++
      " the dependum: " ++ dependum ++ "\n" ++
    "//\n" ++
    "// Original Element in PIM: " ++ name ++ "\n" ++
    "// Transformed To: Function `" ++ routine ++ "`\n" ++
    "//\n" ++
    "// Note for Developers:\n" ++
    "// The `dependum` data " ++ role.handover ++ " " ++ phrase ++ ".\n" ++
    "// Ensure the function completes its operation and " ++ role.exchange ++
      " the required data \n" ++
    "// in the appropriate format for " ++ role.purpose ++ ".\n" ++
    "// \n" ++
    "// Qualification Array:\n" ++
    "// " ++ listNote (thread.get? "qualification_array") ++ "\n" ++
    "// \n" ++
    "// Contribution Array:\n" ++
    "// " ++ listNote (thread.get? "contribution_array") ++ "\n" ++
    "// \n" ++
    "//\n"
  pure (indentLines "    " text)

def hardwareNote (cpc : Element) (id : Option String) : Gen String := do
  match ← findIn cpc (← around ".//hw_resource[@id='" id "']") with
  | none => pure ""
  | some hw =>
    let name := displayOption ((hw.get? "name").map stripTags)
    pure (
      "    // " ++ name ++ ":\n" ++
      "    //     ID: " ++ displayOption id ++ "\n" ++
      "    //     Parent ID: " ++ shown hw "id_cim_parent" ++ "\n" ++
      "    //     Description: " ++ shown hw "integration_operation_description" ++ "\n")

/-- The notes on the hardware resources related to a routine, one per relation that ends at
the routine. -/
def hardwareNotes (routine cpc : Element) : Gen String := do
  let relations ← findAllIn cpc (← around ".//relation[@target='" (routine.get? "id") "']")
  let notes ← relations.mapM fun r => hardwareNote cpc (r.get? "source")
  pure ("// Hardware Resource Assigned:\n" ++ String.join notes)

theorem listNote_none : listNote none = noneSpecified := rfl

end SketchGen.Sketch
