import SketchGen.Sketch.Identifier
import SketchGen.Xml.Query.Select

namespace SketchGen.Sketch

open SketchGen.Json SketchGen.Xml SketchGen.Text

/-! What the generator reads off a model element: attributes as texts (a missing one shows as
`None`), identifiers made from them, the JSON they hold, elements found by queries, and query
paths built around attribute values. -/

def attrValue (e : Element) (name : String) : Value := Value.ofOption (e.get? name)

def shown (e : Element) (name : String) : String := displayOption (e.get? name)

def identOf (e : Element) (name : String) : Gen String := identifierOf (attrValue e name)

def nameIdent (e : Element) : Gen String := identOf e "name"

def jsonOf (e : Element) (name : String) : Gen Value := readAttribute (e.get? name)

def jsonOr (e : Element) (name fallback : String) : Gen Value :=
  readAttribute (some ((e.get? name).getD fallback))

def modesEnabled (e : Element) : Bool := (e.get? "operation_modes_enabled").getD "false" == "true"

def findAllIn (e : Element) (path : String) : Gen (List Element) :=
  match e.findAll path with
  | .ok es => .ok es
  | .error .empty => .error (.emptyQuery false)
  | .error err => .error (.query err)

def findIn (e : Element) (path : String) : Gen (Option Element) :=
  match e.findAll path with
  | .ok es => .ok es.head?
  | .error .empty => .error (.emptyQuery true)
  | .error err => .error (.query err)

def around (pre : String) (v : Option String) (post : String) : Gen String :=
  match v with
  | some s => .ok (pre ++ s ++ post)
  | none => .error .joinedMissing

def attrOfFound (e : Option Element) (name : String) : Gen (Option String) :=
  match e with
  | some x => .ok (x.get? name)
  | none => .error (.noOperation .none "get")

end SketchGen.Sketch
