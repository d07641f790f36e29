import SketchGen.Fault

namespace SketchGen.Json

open SketchGen

/-! Using JSON values the way the generator's rules use them: going through a value's items,
asking a dictionary for a key with or without a fallback, taking the first item, testing
whether a value counts as true, and checking that it can serve as a dictionary key. Each use
that a sort of value does not support is a fault naming that sort. -/

def Value.items : Value → Gen (List Value)
  | .arr xs => .ok xs
  | .obj ms => .ok (ms.map fun m => .str m.1)
  | .str s => .ok (s.toList.map fun c => .str (String.singleton c))
  | v => .error (.notIterable v.kind)

def Value.getOr (v : Value) (key : String) (fallback : Value) : Gen Value :=
  match v with
  | .obj ms => .ok ((lookupMember ms key).getD fallback)
  | v => .error (.noOperation v.kind "get")

def Value.get (v : Value) (key : String) : Gen Value := v.getOr key .null

/-- A dictionary's value for a key, which must be present; lists and texts are indexed by
numbers only. -/
def Value.member (v : Value) (key : String) : Gen Value :=
  match v with
  | .obj ms =>
    match lookupMember ms key with
    | some x => .ok x
    | none => .error (.missingKey (.str key))
  | .arr _ => .error (.textIndex .list)
  | .str _ => .error (.textIndex .str)
  | v => .error (.notSubscriptable v.kind)

def Value.first : Value → Gen Value
  | .arr (x :: _) => .ok x
  | .arr [] => .error (.noFirstItem .list)
  | .obj _ => .error (.missingKey (.int 0))
  | .str s =>
    match s.toList with
    | c :: _ => .ok (.str (String.singleton c))
    | [] => .error (.noFirstItem .str)
  | v => .error (.notSubscriptable v.kind)

def Value.truthy : Value → Bool
  | .null => false
  | .bool b => b
  | .int i => i != 0
  | .float (.finite _ 0 _) => false
  | .float _ => true
  | .str s => !s.isEmpty
  | .arr xs => !xs.isEmpty
  | .obj ms => !ms.isEmpty

def Value.checkKey : Value → Gen Unit
  | .arr _ => .error (.unhashable .list)
  | .obj _ => .error (.unhashable .dict)
  | _ => .ok ()

def readAttribute : Option String → Gen Value
  | none => .error (.notJsonText .none)
  | some s =>
    match Json.read s with
    | .ok v => .ok v
    | .error e => .error (.json e)

theorem Value.items_arr (xs : List Value) : (Value.arr xs).items = .ok xs := rfl

end SketchGen.Json
