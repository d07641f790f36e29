import SketchGen.Sketch.Attributes
import SketchGen.Sketch.Variables

namespace SketchGen.Sketch

open SketchGen.Json SketchGen.Xml

/-! Data structures. An element's data structure is a JSON list of fields; a field lacking a
name, a description or a type gets `UnknownName`, `No description available.` or `double`, and
the fields become the members of a C struct named after the element. A text that is not JSON
gives a comment in place of the struct. -/

def invalidStructure : String := "// Error: Invalid data structure format\n"

/-- A field with its missing name, description and type filled in. Only a dictionary is a
field. -/
def completeField : Value → Gen Value
  | .obj ms =>
    let fill (ms : List (String × Value)) (key : String) (fallback : Value) :=
      setMember ms key ((lookupMember ms key).getD fallback)
    let ms := fill ms "name" (.str "UnknownName")
    let ms := fill ms "description" (.str "No description available.")
    .ok (.obj (fill ms "type" (.str "double")))
  | v => .error (.noOperation v.kind "get")

/-- The JSON text of an element's data structure: its own, or when that is missing or empty,
the one of its dependum, or an empty list. -/
def structureSource (e : Element) : String :=
  match e.get? "data_structure" with
  | some s => if s.isEmpty then fallback else s
  | none => fallback
where
  fallback := (e.get? "dependum_data_structure").getD "[]"

/-- What an element's data structure declares: a struct named after the element (`owner` is
the element's identifier) with a member per field, or, for a text that is not JSON, nothing. -/
inductive StructDecl where
  | invalid
  | struct (owner : String) (members : List Variable)
deriving DecidableEq, Repr

def StructDecl.text (mode : VarMode) : StructDecl → String
  | .invalid => invalidStructure
  | .struct owner members =>
    let tag := owner ++ "_data_structure"
    "struct " ++ tag ++ " \x7b\n" ++ String.join (members.filterMap (Variable.line "    " mode)) ++
      "\x7d " ++ tag ++ ";\n"

/-- The data structure of an element. The fields are completed before the element's identifier
is made, and their variables after. -/
def structOf (e : Element) : Gen StructDecl :=
  match Json.read (structureSource e) with
  | .error (.invalid _ _ _ _) => pure .invalid
  | .error err => throw (.json err)
  | .ok fields => do
    let items ← fields.items
    let complete ← items.mapM completeField
    let owner ← nameIdent e
    let members ← complete.mapM (Variable.ofParam "")
    pure (.struct owner members)

def structText (e : Element) (mode : VarMode) : Gen String := do
  pure ((← structOf e).text mode)

/-- The data structures of a component's publishers, subscribers and software resources, in
that order. -/
def structDeclsOf (cpc : Element) : Gen (List StructDecl) :=
  (["commThread", "listenerThread", "sw_resource"].flatMap cpc.childrenTagged).mapM structOf

/-- The structs of a component's publishers, subscribers and software resources, in that order,
separated by blank lines. -/
def structsOf (cpc : Element) (mode : VarMode) : Gen String := do
  pure ("\n".intercalate ((← structDeclsOf cpc).map (StructDecl.text mode)))

end SketchGen.Sketch
