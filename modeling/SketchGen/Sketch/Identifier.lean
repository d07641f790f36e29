import SketchGen.Json.Access
import SketchGen.Text.Blank
import SketchGen.Text.Case
import SketchGen.Text.Markup

namespace SketchGen.Sketch

open SketchGen.Json SketchGen.Text

/-! Identifiers of the generated code, made from the names in the model. The words of a name
(split at blanks) are joined in camel case: the first in lower case, each further word
capitalised; hyphens become underscores. A name without words gives no identifier. -/

def underscored (s : String) : String :=
  String.ofList (s.toList.map fun c => if c = '-' then '_' else c)

def camelCase (first : String) (rest : List String) : String :=
  underscored (lower first ++ String.join (rest.map capitalize))

def identifier? (name : String) : Option String :=
  match words name with
  | [] => none
  | w :: ws => some (camelCase w ws)

def identifierOf : Value → Gen String
  | .str s =>
    match identifier? s with
    | some i => .ok i
    | none => .error (.noFirstItem .list)
  | v => .error (.noOperation v.kind "split")

def textOf (v : Value) (operation : String) : Gen String :=
  match v with
  | .str s => .ok s
  | v => .error (.noOperation v.kind operation)

/-- A value with its markup tags removed: a value that counts as false stays as it is, and any
other value must be text. -/
def untagged (v : Value) : Gen Value :=
  if !v.truthy then .ok v
  else match v with
    | .str s => .ok (.str (stripTags s))
    | v => .error (.notText v.kind)

theorem identifier?_eq_none_iff (name : String) : identifier? name = none ↔ words name = [] := by
  unfold identifier?
  cases words name <;> simp

end SketchGen.Sketch
