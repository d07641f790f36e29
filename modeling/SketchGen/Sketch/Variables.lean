import SketchGen.Sketch.Identifier

namespace SketchGen.Sketch

open SketchGen.Json SketchGen.Text

/-! Variables of generated code. A model parameter names its type, its name and a description;
the type maps to a C type with an initial value (and, for a fixed text buffer, a length), and
each variable becomes one line that declares, initialises or assigns it. -/

/-- How a list of variables is written: declared with the initial value, assigned the initial
value, declared bare, or not written at all. -/
inductive VarMode where
  | init
  | assign
  | declare
  | silent
deriving DecidableEq, Repr

/-- The C type of a variable: its name, its initial value (empty when there is none) and, for a
buffer, its length. -/
structure CType where
  name : String
  initial : String
  length : Option Nat
deriving DecidableEq, Repr

def CType.known? : String → Option CType
  | "int" => some ⟨"int", "0", none⟩
  | "double" => some ⟨"double", "0.0", none⟩
  | "string" => some ⟨"String", "\"default\"", none⟩
  | "char[50]" => some ⟨"char", "\x7b\"default\"\x7d", some 50⟩
  | "bool" => some ⟨"bool", "false", none⟩
  | _ => none

/-- The C type of a model's type value: a known name maps by the table, any other value stands
as it reads, without an initial value. The value is a key of the table, so it cannot be a list or
a dictionary. -/
def CType.ofValue (v : Value) : Gen CType := do
  v.checkKey
  match v with
  | .str s => pure ((CType.known? s).getD ⟨s, "", none⟩)
  | v => pure ⟨v.display, "", none⟩

/-- One variable: its C type, its identifier and its description as it reads. -/
structure Variable where
  ctype : CType
  name : String
  description : String
deriving DecidableEq, Repr

/-- The variable a parameter describes. Type, name and description are looked up in this
order; a blank owner gives no prefix, any other owner prefixes the identifier. -/
def Variable.ofParam (owner : String) (p : Value) : Gen Variable := do
  let ty ← p.member "type"
  let ctype ← CType.ofValue ty
  let ident ← identifierOf (← p.member "name")
  let name := if (strip owner).isEmpty then ident else owner ++ "_" ++ ident
  let description ← p.member "description"
  pure ⟨ctype, name, description.display⟩

def Variable.statement (v : Variable) : VarMode → Option String
  | .init =>
    some (v.ctype.name ++ " " ++ v.name ++
      (if v.ctype.initial.isEmpty then "" else " = " ++ v.ctype.initial))
  | .assign =>
    if v.ctype.initial.isEmpty then none
    else match v.ctype.length with
      | some _ => some ("strcpy(" ++ v.name ++ ", " ++ v.ctype.initial ++ ")")
      | none => some (v.name ++ " = " ++ v.ctype.initial)
  | .declare =>
    match v.ctype.length with
    | some n => some (v.ctype.name ++ " " ++ v.name ++ "[" ++ toString n ++ "]")
    | none => some (v.ctype.name ++ " " ++ v.name)
  | .silent => none

def Variable.line (indent : String) (mode : VarMode) (v : Variable) : Option String :=
  (v.statement mode).map fun s => indent ++ s ++ "; // " ++ v.description ++ "\n"

/-- Appends the lines of the variables that parameters describe to the lines written before,
one parameter at a time: the first parameter that fails stops the run, and the lines stay as the
parameters before it left them. -/
def appendVariables (owner indent : String) (mode : VarMode) :
    List String → List Value → List String × Option Fault
  | written, [] => (written, none)
  | written, p :: ps =>
    match Variable.ofParam owner p with
    | .ok v => appendVariables owner indent mode (written ++ (v.line indent mode).toList) ps
    | .error f => (written, some f)

/-- The lines of the variables that the items of a parameter list describe, appended to no
lines. -/
def variableLines (owner indent : String) (mode : VarMode) (params : Value) :
    Gen (List String) := do
  let items ← params.items
  match appendVariables owner indent mode [] items with
  | (lines, none) => pure lines
  | (_, some fault) => throw fault

/-- A parameter of a routine: its C type and its identifier. -/
structure Param where
  ctype : CType
  name : String
deriving DecidableEq, Repr

def Param.text (p : Param) : String := p.ctype.name ++ " " ++ p.name

def Param.declaration (p : Param) : String :=
  p.ctype.name ++ " " ++ p.name ++
    (if p.ctype.initial.isEmpty then "" else " = " ++ p.ctype.initial) ++ ";"

@[simp] theorem Variable.statement_silent (v : Variable) : v.statement .silent = none := rfl

theorem Variable.statement_declare_isSome (v : Variable) : (v.statement .declare).isSome := by
  unfold Variable.statement
  cases v.ctype.length <;> rfl

end SketchGen.Sketch
