import Mathlib
import SketchGen.Proofs.Occurrence
import SketchGen.Proofs.Sketch.DataStructures

namespace SketchGen.Sketch

open SketchGen.Json SketchGen.Xml SketchGen.Text

/-! Writing variables. The lines of a list of parameter objects are appended one parameter at a
time: initialising and declaring write a line for every parameter, assigning one for each
parameter of a known type, and a mode of any other name none; each line names the parameter's
variable, after its owner when the owner is not blank. The first parameter that cannot be read
stops the run with its fault, and the lines written before it stay. -/

/-! ### One parameter -/

/-- The fault a parameter object raises when it is read: it must have a type, the type must be
able to serve as a dictionary key, it must have a name with an identifier, and it must have a
description, checked in that order. -/
def paramFault (ms : List (String × Value)) : Option Fault :=
  match lookupMember ms "type" with
  | none => some (.missingKey (.str "type"))
  | some t =>
    match t.checkKey with
    | .error f => some f
    | .ok () =>
      match lookupMember ms "name" with
      | none => some (.missingKey (.str "name"))
      | some n =>
        match identifierOf n with
        | .error f => some f
        | .ok _ =>
          match lookupMember ms "description" with
          | none => some (.missingKey (.str "description"))
          | some _ => none

def knownType : Value → Bool
  | .str s => (CType.known? s).isSome
  | _ => false

/-- Whether a mode writes a line for a parameter object: initialising and declaring write every
variable, assigning those of a type the model knows (the others have no initial value), and a
mode of any other name none. -/
def writesLine (mode : VarMode) (ms : List (String × Value)) : Bool :=
  match mode with
  | .init | .declare => true
  | .assign =>
    match lookupMember ms "type" with
    | some t => knownType t
    | none => false
  | .silent => false

/-- The name of a variable: the identifier, after the owner and an underscore unless the owner
is blank. -/
def variableName (owner ident : String) : String :=
  if (strip owner).isEmpty then ident else owner ++ "_" ++ ident

/-- A line that writes a parameter object's variable: the indentation, a statement that names the
variable, and the parameter's description as a comment. -/
def WritesVariable (owner indent : String) (ms : List (String × Value)) (line : String) : Prop :=
  ∃ n ident d, lookupMember ms "name" = some n ∧ identifierOf n = .ok ident ∧
    lookupMember ms "description" = some d ∧
    ∃ statement, line = indent ++ statement ++ "; // " ++ d.display ++ "\n" ∧
      Occurs (variableName owner ident) statement

theorem CType.ofValue_of_checkKey {t : Value} (keyed : t.checkKey = .ok ()) :
    ∃ ct, CType.ofValue t = .ok ct := by
  unfold CType.ofValue
  rw [keyed]
  cases t <;> exact ⟨_, rfl⟩

theorem Variable.ofParam_obj (owner : String) (ms : List (String × Value)) :
    match paramFault ms with
    | some f => Variable.ofParam owner (.obj ms) = .error f
    | none => ∃ v, Variable.ofParam owner (.obj ms) = .ok v := by
  unfold paramFault
  cases typed : lookupMember ms "type" with
  | none => simp [Variable.ofParam, Value.member, typed, bind, Except.bind]
  | some t =>
    cases keyed : t.checkKey with
    | error f => simp [Variable.ofParam, Value.member, typed, CType.ofValue, keyed, bind, Except.bind]
    | ok u =>
      cases u
      obtain ⟨ct, converted⟩ := CType.ofValue_of_checkKey keyed
      cases named : lookupMember ms "name" with
      | none => simp [Variable.ofParam, Value.member, typed, keyed, named, converted, bind, Except.bind]
      | some n =>
        cases identified : identifierOf n with
        | error f =>
          simp [Variable.ofParam, Value.member, typed, keyed, named, identified, converted, bind,
            Except.bind]
        | ok ident =>
          cases described : lookupMember ms "description" with
          | none =>
            simp [Variable.ofParam, Value.member, typed, keyed, named, identified, described, converted,
              bind, Except.bind]
          | some d =>
            simp [Variable.ofParam, Value.member, typed, keyed, named, identified, described, converted,
              bind, Except.bind, pure, Except.pure]

theorem Value.member_obj {ms : List (String × Value)} {key : String} {x : Value} :
    (Value.obj ms).member key = .ok x ↔ lookupMember ms key = some x := by
  cases found : lookupMember ms key <;> simp [Value.member, found]

theorem CType.initial_isEmpty_of_ofValue {t : Value} {ct : CType}
    (converted : CType.ofValue t = .ok ct) : ct.initial.isEmpty = !knownType t := by
  cases t with
  | str s =>
    simp only [CType.ofValue, Value.checkKey, Gen.bind_eq_ok, Gen.pure_eq_ok] at converted
    obtain ⟨-, -, rfl⟩ := converted
    cases known : CType.known? s with
    | none => simp [knownType, known]
    | some k =>
      simp only [knownType, known, Option.getD_some, Option.isSome_some, Bool.not_true]
      -- every type of the table has an initial value
      unfold CType.known? at known
      split at known <;> cases known <;> rfl
  | arr xs => simp [CType.ofValue, Value.checkKey, bind, Except.bind] at converted
  | obj ms => simp [CType.ofValue, Value.checkKey, bind, Except.bind] at converted
  | _ =>
    simp only [CType.ofValue, Value.checkKey, Gen.bind_eq_ok, Gen.pure_eq_ok] at converted
    obtain ⟨-, -, rfl⟩ := converted
    rfl

theorem Variable.statement_names (v : Variable) {mode : VarMode} {statement : String}
    (stated : v.statement mode = some statement) : Occurs v.name statement := by
  cases mode with
  | init =>
    cases stated
    exact ((Occurs.refl v.name).append_right _).append_left _
  | assign =>
    simp only [Variable.statement] at stated
    split at stated
    · cases stated
    · split at stated <;> cases stated
      · exact ((((Occurs.refl v.name).append_right _).append_left _).append_left _).append_left _
      · exact ((Occurs.refl v.name).append_left _).append_left _
  | declare =>
    simp only [Variable.statement] at stated
    split at stated <;> cases stated
    · exact ((((Occurs.refl v.name).append_right _).append_left _).append_left _).append_left _
    · exact (Occurs.refl v.name).append_right _
  | silent => cases stated

theorem Variable.line_of_ofParam {owner : String} {ms : List (String × Value)} {v : Variable}
    (made : Variable.ofParam owner (.obj ms) = .ok v) (indent : String) (mode : VarMode) :
    List.Forall₂ (WritesVariable owner indent) ([ms].filter (writesLine mode))
      (v.line indent mode).toList := by
  simp only [Variable.ofParam, Gen.bind_eq_ok, Gen.pure_eq_ok] at made
  obtain ⟨t, typed, ct, converted, n, named, ident, identified, d, described, rfl⟩ := made
  rw [Value.member_obj] at typed named described
  change List.Forall₂ _ _ ((⟨ct, variableName owner ident, d.display⟩ : Variable).line indent
    mode).toList
  -- the mode writes a line exactly when the parameter's variable has a statement in it
  have writes : writesLine mode ms = ((⟨ct, variableName owner ident, d.display⟩ : Variable).statement
      mode).isSome := by
    cases mode with
    | init => rfl
    | declare => exact (Variable.statement_declare_isSome _).symm
    | silent => rfl
    | assign =>
      simp only [writesLine, typed, Variable.statement, CType.initial_isEmpty_of_ofValue converted]
      cases knownType t
      · rfl
      · simp only [Bool.not_true, Bool.false_eq_true, if_false]
        split <;> rfl
  cases stated : (⟨ct, variableName owner ident, d.display⟩ : Variable).statement mode with
  | none =>
    rw [stated] at writes
    simp [writes, Variable.line, stated]
  | some statement =>
    rw [stated] at writes
    have names := Variable.statement_names ⟨ct, variableName owner ident, d.display⟩ stated
    dsimp only at names
    simp only [List.filter_cons, List.filter_nil, writes, Option.isSome_some, if_true,
      Variable.line, stated, Option.map_some, Option.toList_some]
    exact List.Forall₂.cons ⟨n, ident, d, named, identified, described, statement, rfl, names⟩ .nil

/-! ### A run over parameters -/

section Run

variable {owner indent : String} {mode : VarMode}

theorem exists_mapM_ofParam {params : List (List (String × Value))}
    (clean : ∀ ms ∈ params, paramFault ms = none) :
    ∃ vs, (params.map .obj).mapM (Variable.ofParam owner) = .ok vs := by
  refine Gen.exists_mapM_eq_ok_iff.mpr fun p member => ?_
  obtain ⟨ms, found, rfl⟩ := List.mem_map.mp member
  have traversed := Variable.ofParam_obj owner ms
  rw [clean ms found] at traversed
  exact traversed

theorem appendVariables_append_of_mapM (rest : List Value) : ∀ {written : List String}
    {params : List Value} {vs : List Variable}, params.mapM (Variable.ofParam owner) = .ok vs →
      appendVariables owner indent mode written (params ++ rest) =
        appendVariables owner indent mode (written ++ vs.filterMap (Variable.line indent mode)) rest
  | written, [], vs, traversed => by
    simp only [List.mapM_nil, Gen.pure_eq_ok] at traversed
    subst traversed
    simp
  | written, q :: qs, vs, traversed => by
    simp only [List.mapM_cons, Gen.bind_eq_ok, Gen.pure_eq_ok] at traversed
    obtain ⟨v, made, others, restTraversed, rfl⟩ := traversed
    rw [List.cons_append, appendVariables, made]
    simp only [appendVariables_append_of_mapM rest restTraversed, List.filterMap_cons,
      List.append_assoc]
    cases v.line indent mode <;> rfl

theorem appendVariables_of_mapM {written : List String} {params : List Value}
    {vs : List Variable} (traversed : params.mapM (Variable.ofParam owner) = .ok vs) :
    appendVariables owner indent mode written params =
      (written ++ vs.filterMap (Variable.line indent mode), none) := by
  simpa [appendVariables] using appendVariables_append_of_mapM [] traversed

theorem appendVariables_append_of_error {p : Value} {f : Fault} {rest : List Value}
    (failed : Variable.ofParam owner p = .error f) {written : List String} {params : List Value}
    {vs : List Variable} (traversed : params.mapM (Variable.ofParam owner) = .ok vs) :
    appendVariables owner indent mode written (params ++ p :: rest) =
      (written ++ vs.filterMap (Variable.line indent mode), some f) := by
  rw [appendVariables_append_of_mapM _ traversed, appendVariables, failed]

theorem lines_of_mapM (indent : String) (mode : VarMode) :
    ∀ {params : List (List (String × Value))} {vs : List Variable},
      (params.map .obj).mapM (Variable.ofParam owner) = .ok vs →
      List.Forall₂ (WritesVariable owner indent) (params.filter (writesLine mode))
        (vs.filterMap (Variable.line indent mode))
  | [], vs, traversed => by
    simp only [List.map_nil, List.mapM_nil, Gen.pure_eq_ok] at traversed
    subst traversed
    exact .nil
  | ms :: rest, vs, traversed => by
    simp only [List.map_cons, List.mapM_cons, Gen.bind_eq_ok, Gen.pure_eq_ok] at traversed
    obtain ⟨v, made, others, restTraversed, rfl⟩ := traversed
    have head := Variable.line_of_ofParam made indent mode
    have tail := lines_of_mapM indent mode restTraversed
    -- the parameter's own line, if any, comes before the lines of the rest
    have split : (ms :: rest).filter (writesLine mode) =
        [ms].filter (writesLine mode) ++ rest.filter (writesLine mode) := by
      rw [← List.filter_append, List.singleton_append]
    have joined : (v :: others).filterMap (Variable.line indent mode) =
        (v.line indent mode).toList ++ others.filterMap (Variable.line indent mode) := by
      rw [List.filterMap_cons]
      cases v.line indent mode <;> rfl
    rw [split, joined]
    exact List.rel_append head tail

end Run

theorem first_fault : ∀ params : List (List (String × Value)),
    (∀ ms ∈ params, paramFault ms = none) ∨
      ∃ before ms after f, params = before ++ ms :: after ∧
        (∀ m ∈ before, paramFault m = none) ∧ paramFault ms = some f
  | [] => .inl (by simp)
  | ms :: rest => by
    cases faulted : paramFault ms with
    | some f => exact .inr ⟨[], ms, rest, f, rfl, by simp, faulted⟩
    | none =>
      rcases first_fault rest with clean | ⟨before, m, after, f, rfl, cleanBefore, faultedM⟩
      · exact .inl fun m member => by
          rcases List.mem_cons.mp member with rfl | member
          · exact faulted
          · exact clean m member
      · refine .inr ⟨ms :: before, m, after, f, rfl, fun m' member => ?_, faultedM⟩
        rcases List.mem_cons.mp member with rfl | member
        · exact faulted
        · exact cleanBefore m' member

/-- Writing the variables of parameter objects after earlier lines: either every parameter is
traversed, and the lines of those the mode writes are appended in order, each naming its variable;
or the first parameter with a fault stops the run with that fault, and exactly the lines of the
parameters before it have been appended. The earlier lines stay in both cases. -/
theorem appendVariables_outcome (owner indent : String) (mode : VarMode) (written : List String)
    (params : List (List (String × Value))) :
    ((∀ ms ∈ params, paramFault ms = none) ∧ ∃ added,
        appendVariables owner indent mode written (params.map .obj) = (written ++ added, none) ∧
        List.Forall₂ (WritesVariable owner indent) (params.filter (writesLine mode)) added) ∨
      ∃ before ms after f, params = before ++ ms :: after ∧
        (∀ m ∈ before, paramFault m = none) ∧ paramFault ms = some f ∧ ∃ added,
        appendVariables owner indent mode written (params.map .obj) = (written ++ added, some f) ∧
        List.Forall₂ (WritesVariable owner indent) (before.filter (writesLine mode)) added := by
  rcases first_fault params with clean | ⟨before, ms, after, f, rfl, cleanBefore, faulted⟩
  · obtain ⟨vs, traversed⟩ := exists_mapM_ofParam clean
    exact .inl ⟨clean, _, appendVariables_of_mapM traversed, lines_of_mapM indent mode traversed⟩
  · obtain ⟨vs, traversed⟩ := exists_mapM_ofParam cleanBefore
    have failed := Variable.ofParam_obj owner ms
    rw [faulted] at failed
    refine .inr ⟨before, ms, after, f, rfl, cleanBefore, faulted, _, ?_,
      lines_of_mapM indent mode traversed⟩
    rw [List.map_append, List.map_cons]
    exact appendVariables_append_of_error failed traversed

end SketchGen.Sketch

namespace SketchGen

/-! ### Faults that are not JSON decoding errors -/

def Fault.decodeError : Fault → Bool
  | .json (.invalid ..) => true
  | _ => false

def Gen.FaultsIn {α : Type} (P : Fault → Prop) (x : Gen α) : Prop := ∀ f, x = .error f → P f

section Faults

variable {α β : Type} {P : Fault → Prop}

theorem Gen.FaultsIn.pure (a : α) : Gen.FaultsIn P (pure a) := fun _ h => by cases h

theorem Gen.FaultsIn.bind {x : Gen α} {g : α → Gen β} (first : Gen.FaultsIn P x)
    (rest : ∀ a, Gen.FaultsIn P (g a)) : Gen.FaultsIn P (x >>= g) := by
  intro f failed
  cases x with
  | error e =>
    injection failed with same
    exact same ▸ first e rfl
  | ok a => exact rest a f failed

theorem Gen.FaultsIn.mapM {g : α → Gen β} (each : ∀ a, Gen.FaultsIn P (g a)) :
    ∀ xs : List α, Gen.FaultsIn P (xs.mapM g)
  | [] => Gen.FaultsIn.pure []
  | x :: xs => by
    rw [List.mapM_cons]
    exact (each x).bind fun b => (Gen.FaultsIn.mapM each xs).bind fun bs => Gen.FaultsIn.pure _

end Faults

end SketchGen

namespace SketchGen.Sketch

open SketchGen.Json SketchGen.Xml SketchGen.Text

theorem identifierOf_faults (v : Value) : Gen.FaultsIn (·.decodeError = false) (identifierOf v) := by
  intro f failed
  cases v with
  | str s =>
    cases made : identifier? s <;> simp [identifierOf, made] at failed
    subst failed
    rfl
  | _ => cases failed; rfl

theorem Variable.ofParam_faults (owner : String) (p : Value) :
    Gen.FaultsIn (·.decodeError = false) (Variable.ofParam owner p) := by
  have member : ∀ key, Gen.FaultsIn (·.decodeError = false) (p.member key) := by
    intro key f failed
    unfold Value.member at failed
    split at failed
    · split at failed <;> cases failed
      rfl
    all_goals (cases failed; rfl)
  have converted : ∀ t, Gen.FaultsIn (·.decodeError = false) (CType.ofValue t) := by
    intro t f failed
    unfold CType.ofValue Value.checkKey at failed
    cases t <;> cases failed <;> rfl
  exact (member _).bind fun t => (converted t).bind fun _ => (member _).bind fun n =>
    (identifierOf_faults n).bind fun _ => (member _).bind fun _ => Gen.FaultsIn.pure _

/-! ### Structs of data structures -/

/-- A field of a data structure as the parameter object it stands for: its type, name and
description, each defaulted when the field lacks it. -/
def fieldParam (ms : List (String × Value)) : List (String × Value) :=
  [("type", (lookupMember ms "type").getD (.str "double")),
    ("name", (lookupMember ms "name").getD (.str "UnknownName")),
    ("description", (lookupMember ms "description").getD (.str "No description available."))]

theorem Variable.ofParam_congr (owner : String) {ms ms' : List (String × Value)}
    (typed : lookupMember ms "type" = lookupMember ms' "type")
    (named : lookupMember ms "name" = lookupMember ms' "name")
    (described : lookupMember ms "description" = lookupMember ms' "description") :
    Variable.ofParam owner (.obj ms) = Variable.ofParam owner (.obj ms') := by
  simp only [Variable.ofParam, Value.member, typed, named, described]

@[simp] theorem lookupMember_fieldParam_type (ms : List (String × Value)) :
    lookupMember (fieldParam ms) "type" = some ((lookupMember ms "type").getD (.str "double")) :=
  rfl

@[simp] theorem lookupMember_fieldParam_name (ms : List (String × Value)) :
    lookupMember (fieldParam ms) "name" =
      some ((lookupMember ms "name").getD (.str "UnknownName")) :=
  rfl

@[simp] theorem lookupMember_fieldParam_description (ms : List (String × Value)) :
    lookupMember (fieldParam ms) "description" =
      some ((lookupMember ms "description").getD (.str "No description available.")) :=
  rfl

theorem completeField_ofParam (owner : String) {ms : List (String × Value)} {m : Value}
    (completed : completeField (.obj ms) = .ok m) :
    Variable.ofParam owner m = Variable.ofParam owner (.obj (fieldParam ms)) := by
  simp only [completeField, Except.ok.injEq] at completed
  subst completed
  apply Variable.ofParam_congr
  · rw [lookupMember_setMember_self, lookupMember_setMember_of_ne _ _ (by decide),
      lookupMember_setMember_of_ne _ _ (by decide), lookupMember_fieldParam_type]
  · rw [lookupMember_setMember_of_ne _ _ (by decide), lookupMember_setMember_of_ne _ _ (by decide),
      lookupMember_setMember_self, lookupMember_fieldParam_name]
  · rw [lookupMember_setMember_of_ne _ _ (by decide), lookupMember_setMember_self,
      lookupMember_setMember_of_ne _ _ (by decide), lookupMember_fieldParam_description]

theorem paramFault_fieldParam {ms : List (String × Value)}
    (named : ∀ n, lookupMember ms "name" = some n → ∃ s, n = .str s ∧ words s ≠ [])
    (typed : ∀ t, lookupMember ms "type" = some t → t.checkKey = .ok ()) :
    paramFault (fieldParam ms) = none := by
  have keyed : ((lookupMember ms "type").getD (.str "double")).checkKey = .ok () := by
    cases found : lookupMember ms "type" with
    | none => rfl
    | some t => exact typed t found
  obtain ⟨ident, identified⟩ : ∃ ident,
      identifierOf ((lookupMember ms "name").getD (.str "UnknownName")) = .ok ident := by
    cases found : lookupMember ms "name" with
    | none => exact ⟨_, rfl⟩
    | some n =>
      obtain ⟨s, rfl, worded⟩ := named n found
      obtain ⟨i, made⟩ := Option.ne_none_iff_exists'.mp ((identifier?_eq_none_iff s).not.mpr worded)
      exact ⟨i, by simp [identifierOf, made]⟩
  simp only [paramFault, lookupMember_fieldParam_type, lookupMember_fieldParam_name,
    lookupMember_fieldParam_description, keyed, identified]

theorem structureSource_eq (e : Element) :
    structureSource e = ((e.get? "data_structure").filter (!·.isEmpty)).getD
      ((e.get? "dependum_data_structure").getD "[]") := by
  unfold structureSource structureSource.fallback
  cases e.get? "data_structure" with
  | none => rfl
  | some s => cases empty : s.isEmpty <;> simp [Option.filter, empty]

theorem structOf_faults (e : Element) :
    Gen.FaultsIn (·.decodeError = false) (structOf e) := by
  have items : ∀ v : Value, Gen.FaultsIn (·.decodeError = false) v.items := by
    intro v f failed
    cases v <;> cases failed <;> rfl
  have completed : ∀ v, Gen.FaultsIn (·.decodeError = false) (completeField v) := by
    intro v f failed
    cases v <;> cases failed <;> rfl
  unfold structOf
  split
  · exact Gen.FaultsIn.pure _
  · -- a reading error other than invalid JSON is passed on
    rename_i err notInvalid _
    intro f failed
    cases failed
    cases err with
    | invalid p pos line column => exact absurd rfl (notInvalid p pos line column)
    | tooManyDigits n => rfl
  · exact (items _).bind fun _ => (Gen.FaultsIn.mapM completed _).bind fun _ =>
      (identifierOf_faults _).bind fun _ =>
        (Gen.FaultsIn.mapM (Variable.ofParam_faults "") _).bind fun _ => Gen.FaultsIn.pure _

theorem mapM_ofParam_of_completed (owner : String) :
    ∀ {fields : List (List (String × Value))} {complete : List Value} {vs : List Variable},
      (fields.map .obj).mapM completeField = .ok complete →
      ((fields.map fieldParam).map .obj).mapM (Variable.ofParam owner) = .ok vs →
      complete.mapM (Variable.ofParam owner) = .ok vs
  | [], complete, vs, completed, traversed => by
    simp only [List.map_nil, List.mapM_nil, Gen.pure_eq_ok] at completed traversed
    subst completed traversed
    rfl
  | ms :: rest, complete, vs, completed, traversed => by
    simp only [List.map_cons, List.mapM_cons, Gen.bind_eq_ok, Gen.pure_eq_ok] at completed traversed
    obtain ⟨m, filled, others, restCompleted, rfl⟩ := completed
    obtain ⟨v, made, vs', restTraversed, rfl⟩ := traversed
    simp only [List.mapM_cons, Gen.bind_eq_ok, Gen.pure_eq_ok]
    exact ⟨v, (completeField_ofParam owner filled).trans made, vs',
      mapM_ofParam_of_completed owner restCompleted restTraversed, rfl⟩

/-- The text written for a data structure is the comment for invalid JSON exactly when its text
is not JSON: a struct starts otherwise. -/
theorem structText_eq_invalid_iff (e : Element) (mode : VarMode) :
    structText e mode = .ok invalidStructure ↔
      ∃ p pos line column, Json.read (structureSource e) = .error (.invalid p pos line column) := by
  constructor
  · intro written
    simp only [structText, Gen.bind_eq_ok, Gen.pure_eq_ok] at written
    obtain ⟨decl, made, text⟩ := written
    cases decl with
    | invalid =>
      unfold structOf at made
      split at made
      · exact ⟨_, _, _, _, ‹_›⟩
      · cases made
      · simp only [Gen.bind_eq_ok, Gen.pure_eq_ok] at made
        obtain ⟨_, _, _, _, _, _, _, _, made⟩ := made
        cases made
    | struct owner members =>
      -- a struct starts with `s`, the comment with `/`
      have first := congrArg (fun t => t.toList.head?) text
      unfold StructDecl.text at first
      simp [invalidStructure, String.toList_append] at first
  · rintro ⟨p, pos, line, column, failed⟩
    simp only [structText, structOf, failed, bind, Except.bind, pure, Except.pure]
    rfl

/-- The struct of a data structure whose text reads as a list of fields with usable names and
types, for an element with a name: the struct named after the element, its members the lines
of the fields' parameters. -/
theorem structText_of_fields {e : Element} (mode : VarMode) {fields : List (List (String × Value))}
    {name : String} (parsed : Json.read (structureSource e) = .ok (.arr (fields.map .obj)))
    (named : ∀ ms ∈ fields, ∀ n, lookupMember ms "name" = some n → ∃ s, n = .str s ∧ words s ≠ [])
    (typed : ∀ ms ∈ fields, ∀ t, lookupMember ms "type" = some t → t.checkKey = .ok ())
    (present : e.get? "name" = some name) (worded : words name ≠ []) :
    ∃ owner lines, identifierOf (.str name) = .ok owner ∧
      variableLines "" "    " mode (.arr (fields.map fun ms => .obj (fieldParam ms))) = .ok lines ∧
      structText e mode = .ok ("struct " ++ (owner ++ "_data_structure") ++ " \x7b\n" ++
        String.join lines ++ "\x7d " ++ (owner ++ "_data_structure") ++ ";\n") := by
  obtain ⟨owner, made⟩ := Option.ne_none_iff_exists'.mp ((identifier?_eq_none_iff name).not.mpr worded)
  have ownerOk : identifierOf (.str name) = .ok owner := by simp [identifierOf, made]
  have clean : ∀ ms ∈ fields.map fieldParam, paramFault ms = none := fun ms member => by
    obtain ⟨field, found, rfl⟩ := List.mem_map.mp member
    exact paramFault_fieldParam (named field found) (typed field found)
  obtain ⟨vs, traversed⟩ : ∃ vs,
      ((fields.map fieldParam).map .obj).mapM (Variable.ofParam "") = .ok vs :=
    exists_mapM_ofParam clean
  obtain ⟨complete, completed⟩ : ∃ complete, (fields.map .obj).mapM completeField = .ok complete :=
    Gen.exists_mapM_eq_ok_iff.mpr fun v member => by
      obtain ⟨ms, -, rfl⟩ := List.mem_map.mp member
      exact ⟨_, rfl⟩
  have members := mapM_ofParam_of_completed "" completed traversed
  have parameters : fields.map (fun ms => Value.obj (fieldParam ms)) =
      (fields.map fieldParam).map .obj := by
    rw [List.map_map]
    rfl
  refine ⟨owner, vs.filterMap (Variable.line "    " mode), ownerOk, ?_, ?_⟩
  · simp only [variableLines, parameters, Value.items_arr, appendVariables_of_mapM traversed,
      List.nil_append, bind, Except.bind, pure, Except.pure]
  · have ownerIdent : nameIdent e = .ok owner := by
      simp [nameIdent, identOf, attrValue, present, Value.ofOption, ownerOk]
    simp only [structText, structOf, parsed, Value.items_arr, completed, ownerIdent, members,
      bind, Except.bind, pure, Except.pure]
    rfl

/-- The C struct of an element's data structure. Its text is the element's data structure when
present and not empty, else its dependum's, else an empty list. Decoding errors never escape: the
struct is the comment for invalid JSON exactly when that text is not JSON. When the text reads as
a list of fields whose names, where present, are texts with a word and whose types, where
present, can be dictionary keys, and the element's name is a text with a word, the struct is named
after the element and holds the lines of the fields' parameters, written without an owner and
indented by four spaces, with a missing name, type or description taken as `UnknownName`,
`double` or `No description available.`. -/
theorem structText_outcome (e : Element) (mode : VarMode) :
    let source := ((e.get? "data_structure").filter (!·.isEmpty)).getD
      ((e.get? "dependum_data_structure").getD "[]")
    (∀ p pos line column, structText e mode ≠ .error (.json (.invalid p pos line column))) ∧
    (structText e mode = .ok invalidStructure ↔
      ∃ p pos line column, Json.read source = .error (.invalid p pos line column)) ∧
    ∀ (fields : List (List (String × Value))) (name : String),
      Json.read source = .ok (.arr (fields.map .obj)) →
      (∀ ms ∈ fields, ∀ n, lookupMember ms "name" = some n → ∃ s, n = .str s ∧ words s ≠ []) →
      (∀ ms ∈ fields, ∀ t, lookupMember ms "type" = some t → t.checkKey = .ok ()) →
      e.get? "name" = some name → words name ≠ [] →
      ∃ owner lines, identifierOf (.str name) = .ok owner ∧
        variableLines "" "    " mode (.arr (fields.map fun ms => .obj (fieldParam ms))) =
          .ok lines ∧
        structText e mode = .ok ("struct " ++ (owner ++ "_data_structure") ++ " \x7b\n" ++
          String.join lines ++ "\x7d " ++ (owner ++ "_data_structure") ++ ";\n") := by
  intro source
  have same : source = structureSource e := (structureSource_eq e).symm
  rw [same]
  refine ⟨fun p pos line column failed => ?_, structText_eq_invalid_iff e mode,
    fun fields name parsed named typed present worded =>
      structText_of_fields mode parsed named typed present worded⟩
  -- only reading the struct can fail, and never with a decoding error
  have faults := (structOf_faults e).bind fun decl => Gen.FaultsIn.pure (decl.text mode)
  exact absurd (faults _ failed) (by simp [Fault.decodeError])

def tankFields : String := "[\x7b\"name\": \"fill level\", \"type\": \"int\"\x7d, \x7b\x7d]"

def readsTankFields : Except Json.ReadError Value → Bool
  | .ok (.arr [.obj [("name", .str "fill level"), ("type", .str "int")], .obj []]) => true
  | _ => false

def tankSensor : Element :=
  ⟨0, "sw_resource", [("name", "Tank Sensor"), ("data_structure", tankFields)], "", [], ""⟩

theorem tankSensor_struct : ∃ owner lines, identifierOf (.str "Tank Sensor") = .ok owner ∧
    variableLines "" "    " .declare (.arr ([[("name", .str "fill level"), ("type", .str "int")], []].map
      fun ms => .obj (fieldParam ms))) = .ok lines ∧
    structText tankSensor .declare = .ok ("struct " ++ (owner ++ "_data_structure") ++ " \x7b\n" ++
      String.join lines ++ "\x7d " ++ (owner ++ "_data_structure") ++ ";\n") := by
  have source : ((tankSensor.get? "data_structure").filter (!·.isEmpty)).getD
      ((tankSensor.get? "dependum_data_structure").getD "[]") = tankFields := rfl
  have shape : readsTankFields (Json.read tankFields) = true := by decide +kernel
  have parsed : Json.read tankFields =
      .ok (.arr ([[("name", .str "fill level"), ("type", .str "int")], []].map .obj)) := by
    -- read the text once, in the kernel, and take the value from the shape it was found to have
    generalize Json.read tankFields = r at shape ⊢
    unfold readsTankFields at shape
    split at shape
    · rfl
    · exact absurd shape Bool.false_ne_true
  refine (structText_outcome tankSensor .declare).2.2
    [[("name", .str "fill level"), ("type", .str "int")], []] "Tank Sensor" (source ▸ parsed) ?_ ?_
    rfl (by decide +kernel)
  · simp only [List.mem_cons, List.not_mem_nil, or_false, forall_eq_or_imp, forall_eq]
    refine ⟨fun n named => ⟨"fill level", ?_, by decide +kernel⟩, fun n named => ?_⟩
    · simpa [lookupMember] using named.symm
    · simp [lookupMember] at named
  · simp only [List.mem_cons, List.not_mem_nil, or_false, forall_eq_or_imp, forall_eq]
    refine ⟨fun t typed => ?_, fun t typed => ?_⟩
    · obtain rfl : t = .str "int" := by simpa [lookupMember] using typed.symm
      rfl
    · simp [lookupMember] at typed

end SketchGen.Sketch
