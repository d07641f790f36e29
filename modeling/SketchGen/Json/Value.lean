import SketchGen.Number.Binary64

namespace SketchGen.Json

open SketchGen.Number

/-! JSON values as the model's attributes carry them. Numbers keep the distinction between
integers, which are exact, and fractions, which are doubles; an object keeps its members in
the order of their first appearance. -/

/-- A JSON value. -/
inductive Value where
  | null
  | bool (b : Bool)
  | int (i : Int)
  | float (x : Binary64)
  | str (s : String)
  | arr (items : List Value)
  | obj (members : List (String × Value))
deriving Repr, Inhabited

/-- The sort of a value, named as the messages about values name it. -/
inductive Kind where
  | none | bool | int | float | str | list | dict
deriving Repr, DecidableEq, Inhabited

def Kind.name : Kind → String
  | .none => "NoneType"
  | .bool => "bool"
  | .int => "int"
  | .float => "float"
  | .str => "str"
  | .list => "list"
  | .dict => "dict"

def Value.kind : Value → Kind
  | .null => .none
  | .bool _ => .bool
  | .int _ => .int
  | .float _ => .float
  | .str _ => .str
  | .arr _ => .list
  | .obj _ => .dict

def Value.ofOption : Option String → Value
  | some s => .str s
  | none => .null

/-- The members of an object after setting `key`: a present key keeps its place and takes
the new value, a new key goes last. -/
def setMember (members : List (String × Value)) (key : String) (v : Value) :
    List (String × Value) :=
  if members.any (·.1 == key) then members.map fun m => if m.1 == key then (key, v) else m
  else members ++ [(key, v)]

def lookupMember (members : List (String × Value)) (key : String) : Option Value :=
  (members.find? (·.1 == key)).map (·.2)

theorem lookupMember_nil (key : String) : lookupMember [] key = none := rfl

end SketchGen.Json
