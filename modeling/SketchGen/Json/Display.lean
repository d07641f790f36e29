import SketchGen.Json.Value
import SketchGen.Number.Format
import SketchGen.Text.Quoted

namespace SketchGen.Json

open SketchGen.Number SketchGen.Text

/-! How a value reads when it is written into generated text. A text stands as itself; every
other value takes its literal form: `None`, `True` and `False`, integers in full, doubles in
their shortest form, and lists and dictionaries in brackets and braces, with their texts
quoted and their items separated by a comma and a space. -/

def intText (i : Int) : String :=
  if i < 0 then "-" ++ Nat.repr i.natAbs else Nat.repr i.natAbs

mutual

def Value.literal : Value → String
  | .null => "None"
  | .bool true => "True"
  | .bool false => "False"
  | .int i => intText i
  | .float x => x.text
  | .str s => quoted s
  | .arr items => "[" ++ literalItems items ++ "]"
  | .obj members => "\x7b" ++ literalMembers members ++ "\x7d"

def literalItems : List Value → String
  | [] => ""
  | [v] => v.literal
  | v :: vs => v.literal ++ ", " ++ literalItems vs

def literalMembers : List (String × Value) → String
  | [] => ""
  | [(k, v)] => quoted k ++ ": " ++ v.literal
  | (k, v) :: ms => quoted k ++ ": " ++ v.literal ++ ", " ++ literalMembers ms

end

def Value.display : Value → String
  | .str s => s
  | v => v.literal

def displayOption : Option String → String
  | some s => s
  | none => "None"

theorem Value.display_str (s : String) : (Value.str s).display = s := rfl

end SketchGen.Json
